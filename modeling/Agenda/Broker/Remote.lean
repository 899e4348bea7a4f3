import Agenda.Broker.Server
import Agenda.Call
import Agenda.Config

/-! Producers and consumers of a message server. A message that cannot be decoded is not
acknowledged, so that the server delivers it again. -/
namespace Agenda.Remote

/-- What a call gives, what it logs, and the server after it. -/
structure Outcome (α : Type) where
  result : Except BrokerError α
  notices : List Notice
  server : BrokerServer

/-- What a call gives, what it logs, and who made it and the server after it. -/
structure Reply (α : Type) where
  result : Except BrokerError Unit
  notices : List Notice
  caller : α
  server : BrokerServer

/-- Whoever makes a call that fails stays as it is. -/
def Outcome.reply {α : Type} (o : Outcome α) (caller : α) : Reply α where
  result := o.result.map fun _ => ()
  notices := o.notices
  caller := o.result.toOption.getD caller
  server := o.server

/-- A request that the server refuses. -/
def refusal : BrokerError := .backend "the request failed"

/-- Whether a stream of this name can be made. -/
def isCreatable (name : String) : Bool :=
  !name.isEmpty && !name.toList.contains '.' && !name.toList.contains ' '

/-- Whether the server has the stream. Nobody is asked about a stream without a name. -/
def findStream (c : BrokerConfig) (s : BrokerServer) : Bool × BrokerServer :=
  if c.stream.isEmpty then (false, s) else s.ask (.streamInfo c.stream)

/-- Makes the stream if it is not there yet. -/
def declareStream (c : BrokerConfig) (s : BrokerServer) : Outcome Unit :=
  let (found, s) := findStream c s
  if found then ⟨.ok (), [], s⟩
  else
    let notices := [Notice.creatingStream c.stream]
    if isCreatable c.stream then
      let (created, s) := s.ask (.streamCreate c.stream c.subject)
      ⟨if created then .ok () else .error refusal, notices, s⟩
    else ⟨.error refusal, notices, s⟩

/-- Makes the durable consumer if it is not there yet. -/
def declareConsumer (c : BrokerConfig) (s : BrokerServer) : Outcome Unit :=
  let (found, s) := s.ask (.consumerInfo c.stream c.consumer)
  if found then ⟨.ok (), [], s⟩
  else
    let (created, s) := s.ask (.consumerCreate c.stream c.consumer c.subject c.maxDeliver)
    ⟨if created then .ok () else .error refusal, [.creatingConsumer c.consumer], s⟩

/-- Has the server say that it has got everything. -/
def flush (s : BrokerServer) : Except BrokerError Unit :=
  if s.accepts .flush then .ok () else .error refusal

end Remote

open Remote (Outcome Reply)

/-- A producer of a message server. -/
structure RemoteProducer where
  config : BrokerConfig
  isOpen : Bool
deriving DecidableEq

namespace RemoteProducer

def new (config : BrokerConfig) : RemoteProducer := ⟨config, false⟩

/-- The producer stays as it is if the stream cannot be made. -/
def openChannel (p : RemoteProducer) (s : BrokerServer) : Outcome RemoteProducer :=
  let declared := Remote.declareStream p.config s
  { declared with result := declared.result.map fun () => { p with isOpen := true } }

def publish (p : RemoteProducer) (s : BrokerServer) (payload : Bytes) : Outcome Unit :=
  if p.isOpen then
    let (kept, s) := s.ask (.publish p.config.subject payload)
    ⟨if kept then .ok () else .error (.publish "the message was not stored"), [], s⟩
  else ⟨.error .channelNotOpen, [], s⟩

def closeChannel (p : RemoteProducer) : RemoteProducer := { p with isOpen := false }

def call (p : RemoteProducer) (s : BrokerServer) : ProducerCall → Reply RemoteProducer
  | .openChannel => (p.openChannel s).reply p
  | .publish payload =>
    let sent := p.publish s payload
    ⟨sent.result, sent.notices, p, sent.server⟩
  | .closeChannel => ⟨.ok (), [], p.closeChannel, s⟩
  | .closeConnection => ⟨Remote.flush s, [], p.closeChannel, s⟩

end RemoteProducer

/-- The messages of one session of a consumer. -/
structure Session where
  /-- How often all consumers of the server had gone before the session began. -/
  generation : Nat
  /-- Whether the session has said that its consumer is gone. -/
  isOver : Bool
deriving DecidableEq

/-- A consumer of a message server. `held` is its session until somebody takes it. -/
structure RemoteConsumer where
  config : BrokerConfig
  isOpen : Bool
  consuming : Bool
  held : Option Session
deriving DecidableEq

namespace RemoteConsumer

def new (config : BrokerConfig) : RemoteConsumer := ⟨config, false, false, none⟩

/-- The consumer stays as it is if the stream cannot be made. -/
def openChannel (c : RemoteConsumer) (s : BrokerServer) : Outcome RemoteConsumer :=
  let declared := Remote.declareStream c.config s
  { declared with result := declared.result.map fun () => { c with isOpen := true } }

/-- Begins the one session of an open channel. -/
def beginConsume (c : RemoteConsumer) (s : BrokerServer) : Outcome RemoteConsumer :=
  if !c.isOpen then ⟨.error .channelNotOpen, [], s⟩
  else if c.consuming then ⟨.error .alreadyConsuming, [], s⟩
  else
    let declared := Remote.declareConsumer c.config s
    { declared with
      result := declared.result.bind fun () =>
        if declared.server.accepts .subscribe then
          .ok { c with consuming := true, held := some ⟨declared.server.generation, false⟩ }
        else .error Remote.refusal }

/-- Hands out the session, once. -/
def receive (c : RemoteConsumer) : Except BrokerError (Session × RemoteConsumer) :=
  if !c.isOpen then .error .channelNotOpen
  else match c.held with
    | none => .error .notConsuming
    | some session => .ok (session, { c with held := none })

def closeChannel (c : RemoteConsumer) : RemoteConsumer :=
  { c with isOpen := false, consuming := false, held := none }

end RemoteConsumer

/-- A consumer and the session that was last taken from it. -/
structure RemoteListener where
  consumer : RemoteConsumer
  session : Option Session
deriving DecidableEq

namespace RemoteListener

def new (config : BrokerConfig) : RemoteListener := ⟨.new config, none⟩

def withConsumer (x : RemoteListener) (consumer : RemoteConsumer) : RemoteListener :=
  { x with consumer }

def call (x : RemoteListener) (s : BrokerServer) : ConsumerCall → Reply RemoteListener
  | .openChannel =>
    let reply := (x.consumer.openChannel s).reply x.consumer
    { reply with caller := x.withConsumer reply.caller }
  | .beginConsume =>
    let reply := (x.consumer.beginConsume s).reply x.consumer
    { reply with caller := x.withConsumer reply.caller }
  | .receive => match x.consumer.receive with
    | .ok (session, consumer) => ⟨.ok (), [], ⟨consumer, some session⟩, s⟩
    | .error e => ⟨.error e, [], x, s⟩
  | .closeChannel => ⟨.ok (), [], x.withConsumer x.consumer.closeChannel, s⟩
  | .closeConnection => ⟨Remote.flush s, [], x.withConsumer x.consumer.closeChannel, s⟩

end RemoteListener

/-- What a look at a session finds. -/
inductive Session.Find
  | waiting
  | item (i : Item)
  | ended

namespace Session

/-- Decodes a message and, if that succeeds, acknowledges it. -/
def receive (m : Message) (s : BrokerServer) : Item × BrokerServer :=
  match Notification.ofBytes m.payload with
  | .error e => (.error (.undecodable e), s)
  | .ok n =>
    let (acknowledged, s) := s.ask (.acknowledge m.number)
    (if acknowledged then .ok n else .error Remote.refusal, s)

/-- Looks at a session once. A session whose consumer has gone says so and ends. -/
def poll (x : Session) (s : BrokerServer) : Find × Session × BrokerServer :=
  if x.isOver then (.ended, x, s)
  else if x.generation ≠ s.generation then
    (.item (.error Remote.refusal), { x with isOver := true }, s)
  else match s.take with
    | none => (.waiting, x, s)
    | some (m, s) =>
      let (item, s) := receive m s
      (.item item, x, s)

end Session
end Agenda
