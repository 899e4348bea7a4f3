import Agenda.Text.Utf8

/-! A message server as its clients see it: streams that keep messages, durable consumers, and one
queue that hands every message out once until it has to be delivered again. -/
namespace Agenda

/-- A stream keeps the messages of its subjects. -/
structure ServerStream where
  name : String
  subjects : List String
deriving DecidableEq

/-- A durable consumer of a stream. It keeps the bound on deliveries that it was made with. -/
structure ServerConsumer where
  stream : String
  name : String
  maxDeliver : Int
deriving DecidableEq

/-- How often a message that nobody acknowledges is delivered, `none` if there is no bound. -/
def ServerConsumer.bound? (c : ServerConsumer) : Option Nat :=
  if 0 < c.maxDeliver then some c.maxDeliver.toNat else none

inductive ServerRequest
  | streamInfo (stream : String)
  | streamCreate (stream subject : String)
  | consumerInfo (stream consumer : String)
  | consumerCreate (stream consumer subject : String) (maxDeliver : Int)
  | publish (subject : String) (payload : Bytes)
  | acknowledge (number : Nat)
deriving DecidableEq

/-- The kinds of requests that can be made to fail. The last two are about the connection of one
client: that it gets the messages of a consumer, and that all it has sent has arrived. -/
inductive RequestKind
  | streamInfo
  | streamCreate
  | consumerInfo
  | consumerCreate
  | publish
  | subscribe
  | flush
deriving DecidableEq

def ServerRequest.kind? : ServerRequest → Option RequestKind
  | .streamInfo _ => some .streamInfo
  | .streamCreate .. => some .streamCreate
  | .consumerInfo .. => some .consumerInfo
  | .consumerCreate .. => some .consumerCreate
  | .publish .. => some .publish
  | .acknowledge _ => none

/-- A message and its number. -/
structure Message where
  number : Nat
  payload : Bytes
deriving DecidableEq

structure BrokerServer where
  streams : List ServerStream
  consumers : List ServerConsumer
  /-- The messages that were not handed out yet. -/
  queue : List Message
  /-- The numbers of the messages that nobody has acknowledged. -/
  unacknowledged : List Nat
  lastNumber : Nat
  failing : List RequestKind
  /-- What the server was asked, the last first. -/
  requests : List ServerRequest
  /-- Whether all consumers go as soon as the queue is empty. -/
  closing : Bool
  /-- How often all consumers have gone. -/
  generation : Nat

namespace BrokerServer

def new : BrokerServer where
  streams := []
  consumers := []
  queue := []
  unacknowledged := []
  lastNumber := 0
  failing := []
  requests := []
  closing := false
  generation := 0

/-- The number of messages that nobody has acknowledged. -/
def stored (s : BrokerServer) : Nat := s.unacknowledged.length

def stream? (s : BrokerServer) (name : String) : Option ServerStream :=
  s.streams.find? (·.name = name)

def consumer? (s : BrokerServer) (stream name : String) : Option ServerConsumer :=
  s.consumers.find? fun c => c.stream = stream && c.name = name

/-- Keeps a message under the next number. -/
def push (s : BrokerServer) (payload : Bytes) : BrokerServer :=
  let number := s.lastNumber + 1
  { s with
    queue := s.queue ++ [⟨number, payload⟩]
    unacknowledged := s.unacknowledged ++ [number]
    lastNumber := number }

def addStream (s : BrokerServer) (x : ServerStream) : BrokerServer :=
  { s with streams := s.streams ++ [x] }

def addConsumer (s : BrokerServer) (c : ServerConsumer) : BrokerServer :=
  { s with consumers := s.consumers ++ [c] }

/-- Whether a request succeeds, and what it changes if so. -/
def perform (s : BrokerServer) : ServerRequest → Option BrokerServer
  | .streamInfo stream => (s.stream? stream).map fun _ => s
  | .streamCreate stream subject => some (s.addStream ⟨stream, [subject]⟩)
  | .consumerInfo stream consumer => (s.consumer? stream consumer).map fun _ => s
  | .consumerCreate stream consumer _ maxDeliver =>
    some (s.addConsumer ⟨stream, consumer, maxDeliver⟩)
  | .publish subject payload =>
    if s.streams.any (·.subjects.contains subject) then some (s.push payload) else none
  | .acknowledge number => some { s with unacknowledged := s.unacknowledged.erase number }

/-- Whether the server does what a client wants of its connection. -/
def accepts (s : BrokerServer) (kind : RequestKind) : Bool := !s.failing.contains kind

/-- Answers a request: whether it succeeded, and the server after it. -/
def ask (s : BrokerServer) (r : ServerRequest) : Bool × BrokerServer :=
  let s := { s with requests := r :: s.requests }
  if r.kind?.any s.failing.contains then (false, s)
  else match s.perform r with
    | none => (false, s)
    | some s => (true, s)

/-- Lets the consumers go if they are to and nothing is queued. -/
def settle (s : BrokerServer) : BrokerServer :=
  if s.closing && s.queue.isEmpty then
    { s with consumers := [], closing := false, generation := s.generation + 1 }
  else s

/-- From now on the consumers go as soon as the queue is empty. -/
def deleteConsumers (s : BrokerServer) : BrokerServer := { s with closing := true }.settle

/-- Hands out the message at the front of the queue. -/
def take (s : BrokerServer) : Option (Message × BrokerServer) :=
  match s.queue with
  | [] => none
  | m :: rest => some (m, { s with queue := rest }.settle)

end BrokerServer
end Agenda
