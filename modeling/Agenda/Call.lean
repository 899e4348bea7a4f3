import Agenda.Broker.Queue

/-! What the parts of the service ask of the storage and of the broker, and how they go on. -/
namespace Agenda

inductive ProducerCall
  | openChannel
  | publish (payload : Bytes)
  | closeChannel
  | closeConnection
deriving DecidableEq

inductive ConsumerCall
  | openChannel
  | beginConsume
  | receive
  | closeChannel
  | closeConnection
deriving DecidableEq

/-- One atomic call. -/
inductive Call
  | insert (e : Event)
  | save (e : Event)
  | delete (id : String)
  | findByStartDate (span : TimeSpan)
  | findByRemindIn (span : TimeSpan)
  | record (n : Notification)
  | produce (call : ProducerCall)
  | consume (call : ConsumerCall)
deriving DecidableEq

namespace Call

abbrev Answer : Call → Type
  | .insert _ | .save _ | .delete _ | .record _ => Except StorageError Unit
  | .findByStartDate _ | .findByRemindIn _ => Except StorageError (List Event)
  | .produce _ | .consume _ => Except BrokerError Unit

/-- The answer of a call that was cut off because it took too long. -/
def timedOut (after : Duration) : (c : Call) → c.Answer
  | .insert _ | .save _ | .delete _ | .record _ | .findByStartDate _ | .findByRemindIn _ =>
    .error (.backend s!"The storage call timed out after {after.text}")
  | .produce _ | .consume _ => .error (.backend s!"The broker call timed out after {after.text}")

end Call

/-- What a listener hears. -/
inductive Signal
  | delivery (item : Item)
  | ended
  | cancelled

/-- What a part of the service does next: nothing more, a call, or listening to a stream. What it
hears decides its next state and what it logs. -/
inductive Move (σ : Type)
  | halt
  | ask (call : Call) (next : call.Answer → σ × List Notice)
  | listen (next : Signal → σ × List Notice)

/-- A part of the service, by its states. -/
class Machine (σ : Type) where
  move : σ → Move σ

end Agenda
