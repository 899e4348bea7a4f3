import Agenda.Broker.Bell
import Agenda.Broker.Queue

/-! The broker inside the process, and the producers and consumers that share it. -/
namespace Agenda

structure LocalBroker where
  queue : Queue
  bell : Bell
  /-- The name of the next stream. -/
  nextStream : Nat

namespace LocalBroker

def new (maxDeliver : Int) : LocalBroker := ⟨.new maxDeliver, .silent, 0⟩

/-- The bound on deliveries where none is configured. -/
def defaultMaxDeliver : Int := 5

def pending (b : LocalBroker) : Nat := b.queue.pending

def publish (b : LocalBroker) (payload : Bytes) : LocalBroker :=
  { b with queue := b.queue.push payload, bell := b.bell.ring }

/-- What a look at a stream finds, and the broker after it. -/
structure Polled where
  /-- `none` while the stream waits. -/
  item : Option Item
  notices : List Notice
  broker : LocalBroker

/-- Looks at a stream once. A stream that sleeps does not look at the queue. -/
def poll (b : LocalBroker) (stream : Nat) : Polled :=
  if stream ∈ b.bell.asleep then ⟨none, [], b⟩
  else
    let bell := b.bell.rise stream
    match b.queue.take with
    | none => ⟨none, [], { b with bell := bell.sleep stream }⟩
    | some t =>
      ⟨some t.item, t.notices,
        { b with queue := t.queue, bell := if t.returned then bell.ring else bell }⟩

/-- A stream is given up. -/
def drop (b : LocalBroker) (stream : Nat) : LocalBroker := { b with bell := b.bell.leave stream }

end LocalBroker

/-- A producer of the broker inside the process. -/
structure LocalProducer where
  isOpen : Bool
deriving DecidableEq

namespace LocalProducer

def new : LocalProducer := ⟨false⟩

def openChannel (_ : LocalProducer) : LocalProducer := ⟨true⟩

def closeChannel (_ : LocalProducer) : LocalProducer := ⟨false⟩

def publish (p : LocalProducer) (b : LocalBroker) (payload : Bytes) :
    Except BrokerError LocalBroker :=
  if p.isOpen then .ok (b.publish payload) else .error .channelNotOpen

end LocalProducer

/-- A consumer of the broker inside the process. `held` is the stream of the session until somebody
takes it. -/
structure LocalConsumer where
  isOpen : Bool
  consuming : Bool
  held : Option Nat
deriving DecidableEq

namespace LocalConsumer

def new : LocalConsumer := ⟨false, false, none⟩

def openChannel (c : LocalConsumer) : LocalConsumer := { c with isOpen := true }

/-- Begins the one session of an open channel. -/
def beginConsume (c : LocalConsumer) (b : LocalBroker) :
    Except BrokerError (LocalConsumer × LocalBroker) :=
  if !c.isOpen then .error .channelNotOpen
  else if c.consuming then .error .alreadyConsuming
  else .ok ({ c with consuming := true, held := some b.nextStream },
    { b with nextStream := b.nextStream + 1 })

/-- Hands out the stream of the session, once. -/
def receive (c : LocalConsumer) : Except BrokerError (Nat × LocalConsumer) :=
  if !c.isOpen then .error .channelNotOpen
  else match c.held with
    | none => .error .notConsuming
    | some stream => .ok (stream, { c with held := none })

def closeChannel (_ : LocalConsumer) : LocalConsumer := ⟨false, false, none⟩

end LocalConsumer
end Agenda
