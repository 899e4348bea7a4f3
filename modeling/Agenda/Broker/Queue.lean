import Agenda.Notice
import Agenda.Wire

/-! The queue of the broker inside the process. A message that cannot be decoded goes back to the
end until it has been delivered as often as the queue allows. -/
namespace Agenda

structure Delivery where
  payload : Bytes
  /-- How often the message was handed out. -/
  attempts : Nat
deriving DecidableEq

structure Queue where
  maxDeliver : Nat
  messages : List Delivery
  positive : 0 < maxDeliver

/-- What one delivery gives its receiver. A notification counts as acknowledged. -/
abbrev Item := Except BrokerError Notification

namespace Queue

/-- An empty queue. A bound below one counts as one. -/
def new (maxDeliver : Int) : Queue where
  maxDeliver := (max 1 maxDeliver).toNat
  messages := []
  positive := by omega

def pending (q : Queue) : Nat := q.messages.length

def push (q : Queue) (payload : Bytes) : Queue :=
  { q with messages := q.messages ++ [⟨payload, 0⟩] }

/-- A delivery of one message, and the queue after it. -/
structure Taken where
  item : Item
  notices : List Notice
  /-- Whether the message was put back. -/
  returned : Bool
  queue : Queue

/-- Hands out the message at the front. -/
def take (q : Queue) : Option Taken :=
  match q.messages with
  | [] => none
  | d :: rest => match Notification.ofBytes d.payload with
    | .ok n => some ⟨.ok n, [], false, { q with messages := rest }⟩
    | .error e =>
      let attempts := d.attempts + 1
      if q.maxDeliver ≤ attempts then
        some ⟨.error (.undecodable e), [.messageDropped attempts], false,
          { q with messages := rest }⟩
      else
        some ⟨.error (.undecodable e), [], true,
          { q with messages := rest ++ [⟨d.payload, attempts⟩] }⟩

end Queue
end Agenda
