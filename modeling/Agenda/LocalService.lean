import Agenda.Broker.Local
import Agenda.Call
import Agenda.Storage.Memory

/-! Storage and broker inside the process, as the parts of the service use them. -/
namespace Agenda

/-- What the parts of the service share. -/
structure LocalService where
  events : EventStore
  notifications : NotificationStore
  broker : LocalBroker

/-- What a part of the service has of its own: a producer, a consumer and the stream that it has
taken from the consumer. -/
structure Endpoint where
  producer : LocalProducer
  consumer : LocalConsumer
  stream : Option Nat
deriving DecidableEq

def Endpoint.new : Endpoint := ⟨.new, .new, none⟩

namespace LocalService

def new (maxDeliver : Int) : LocalService where
  events := .empty
  notifications := .empty
  broker := .new maxDeliver

/-- A call that fails leaves the events as they are. -/
def storing (s : LocalService) :
    Except StorageError EventStore → Except StorageError Unit × LocalService
  | .ok events => (.ok (), { s with events })
  | .error e => (.error e, s)

def produce (s : LocalService) (x : Endpoint) :
    ProducerCall → Except BrokerError Unit × Endpoint × LocalService
  | .openChannel => (.ok (), { x with producer := x.producer.openChannel }, s)
  | .publish payload => match x.producer.publish s.broker payload with
    | .ok broker => (.ok (), x, { s with broker })
    | .error e => (.error e, x, s)
  | .closeChannel | .closeConnection => (.ok (), { x with producer := x.producer.closeChannel }, s)

/-- The taken stream is given up. -/
def dropStream (s : LocalService) (x : Endpoint) : Endpoint × LocalService :=
  match x.stream with
  | none => (x, s)
  | some stream => ({ x with stream := none }, { s with broker := s.broker.drop stream })

def consume (s : LocalService) (x : Endpoint) :
    ConsumerCall → Except BrokerError Unit × Endpoint × LocalService
  | .openChannel => (.ok (), { x with consumer := x.consumer.openChannel }, s)
  | .beginConsume => match x.consumer.beginConsume s.broker with
    | .ok (consumer, broker) => (.ok (), { x with consumer }, { s with broker })
    | .error e => (.error e, x, s)
  | .receive => match x.consumer.receive with
    | .ok (stream, consumer) =>
      let (x, s) := s.dropStream x
      (.ok (), { x with consumer, stream := some stream }, s)
    | .error e => (.error e, x, s)
  | .closeChannel | .closeConnection => (.ok (), { x with consumer := x.consumer.closeChannel }, s)

/-- Carries out a call of the part of the service that has the endpoint `x`. -/
def answer (s : LocalService) (x : Endpoint) : (c : Call) → c.Answer × Endpoint × LocalService
  | .insert e => let (a, s) := s.storing (s.events.insert e); (a, x, s)
  | .save e => let (a, s) := s.storing (s.events.save e); (a, x, s)
  | .delete id => let (a, s) := s.storing (s.events.delete id); (a, x, s)
  | .findByStartDate span => (s.events.findByStartDate span, x, s)
  | .findByRemindIn span => (s.events.findByRemindIn span, x, s)
  | .record n => match s.notifications.record n with
    | .ok notifications => (.ok (), x, { s with notifications })
    | .error e => (.error e, x, s)
  | .produce call => s.produce x call
  | .consume call => s.consume x call

/-- What the taken stream has to say, `none` while it waits. -/
def poll (s : LocalService) (x : Endpoint) : Option Item × List Notice × LocalService :=
  match x.stream with
  | none => (none, [], s)
  | some stream =>
    let polled := s.broker.poll stream
    (polled.item, polled.notices, { s with broker := polled.broker })

/-- Whether the taken stream waits and nothing has come for it. -/
def isQuiet (s : LocalService) (x : Endpoint) : Bool :=
  match x.stream with
  | none => true
  | some stream => s.broker.bell.asleep.contains stream

end LocalService
end Agenda
