import Agenda.Call

/-! Faults that a rehearsal plans: what befalls a call before it is carried out. -/
namespace Agenda.Rehearsal

/-- How a call is made to fail. -/
inductive Failure
  | conflict
  | notFound
  | empty
  | channelNotOpen
  | notConsuming
  | alreadyConsuming
  | connection
  | publish
  | backend
deriving DecidableEq

inductive Fault
  /-- The call never answers. -/
  | hang
  /-- The call waits before it is carried out. -/
  | slow (milliseconds : Nat)
  /-- The caller breaks off. -/
  | crash
  | failing (f : Failure)
deriving DecidableEq

/-- Faults by the label of a call, or by label and subject. -/
abbrev FaultPlan := List (String × Fault)

def producerLabel : ProducerCall → String
  | .openChannel => "open_channel"
  | .publish _ => "publish"
  | .closeChannel => "close_channel"
  | .closeConnection => "close_connection"

def consumerLabel : ConsumerCall → String
  | .openChannel => "open_channel"
  | .beginConsume => "begin_consume"
  | .receive => "receive"
  | .closeChannel => "close_channel"
  | .closeConnection => "close_connection"

def label : Call → String
  | .insert _ => "insert"
  | .save _ => "save"
  | .delete _ => "delete"
  | .findByStartDate _ => "find_by_start_date"
  | .findByRemindIn _ => "find_by_remind_in"
  | .record _ => "record"
  | .produce call => "producer." ++ producerLabel call
  | .consume call => "consumer." ++ consumerLabel call

/-- The id of the event that a call is about. -/
def subject? : Call → Option String
  | .insert e | .save e => some e.id
  | .delete id => some id
  | .record n => some n.eventId
  | .produce (.publish payload) => (Notification.ofBytes payload).toOption.map (·.eventId)
  | _ => none

/-- A fault planned for the subject counts before one for the label alone. -/
def FaultPlan.find? (plan : FaultPlan) (c : Call) : Option Fault :=
  (subject? c).bind (fun id => plan.lookup (label c ++ ":" ++ id)) <|> plan.lookup (label c)

namespace Failure

def storageError? (id : String) : Failure → Option StorageError
  | .conflict => some (.conflict id)
  | .notFound => some (.notFound id)
  | .empty => some .empty
  | .backend => some (.backend "database unavailable")
  | _ => none

def reason : String := "broker unavailable"

def brokerError? : Failure → Option BrokerError
  | .channelNotOpen => some .channelNotOpen
  | .notConsuming => some .notConsuming
  | .alreadyConsuming => some .alreadyConsuming
  | .connection => some (.connection reason)
  | .publish => some (.publish reason)
  | .backend => some (.backend reason)
  | _ => none

/-- The answer that a call is given instead of being carried out, if it can fail in this way. -/
def answer? (f : Failure) : (c : Call) → Option c.Answer
  | .insert e | .save e => (f.storageError? e.id).map .error
  | .delete id => (f.storageError? id).map .error
  | .record n => (f.storageError? n.eventId).map .error
  | .findByStartDate _ | .findByRemindIn _ => (f.storageError? "").map .error
  | .produce _ | .consume _ => f.brokerError?.map .error

end Failure
end Agenda.Rehearsal
