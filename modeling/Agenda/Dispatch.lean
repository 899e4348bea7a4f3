import Agenda.Call

/-! A dispatch cycle: it finds the events that are due for a reminder and publishes their
notifications. One that cannot be published does not keep back the others. -/
namespace Agenda

/-- The width of the windows of an interval, in seconds. -/
def Duration.windowWidth (interval : Duration) : Int :=
  min (interval.seconds : Int) 9223372036854775807

/-- The call that a cycle makes next. -/
inductive Dispatch
  | query (window : TimeSpan)
  | openChannel (due : List Event)
  | publish (event : Event) (later : List Event) (count : Nat)
  | closeChannel (count : Nat)
  | finished
deriving DecidableEq

namespace Dispatch

/-- The reminders of the interval that begins now. -/
def window (now : Timestamp) (interval : Duration) : TimeSpan :=
  .startingAt now interval.windowWidth

def start (now : Timestamp) (interval : Duration) : Dispatch := .query (window now interval)

/-- Goes on with the events that were not tried yet, out of `count`. -/
def proceed (count : Nat) : List Event → Dispatch
  | [] => .closeChannel count
  | e :: later => .publish e later count

def move : Dispatch → Move Dispatch
  | .query window => .ask (.findByRemindIn window) fun
    | .ok due => (.openChannel due, [])
    | .error .empty => (.finished, [.noRemindersDue window])
    | .error e => (.finished, [.dueQueryFailed e])
  | .openChannel due => .ask (.produce .openChannel) fun
    | .ok () => (proceed due.length due, [])
    | .error e => (.finished, [.channelNotOpened e])
  | .publish event later count =>
    .ask (.produce (.publish (Notification.ofEvent event).toBytes)) fun
      | .ok () => (proceed count later, [])
      | .error e => (proceed count later, [.publishFailed event.id e])
  | .closeChannel count => .ask (.produce .closeChannel) fun
    | .ok () => (.finished, [.dispatchFinished count])
    | .error e => (.finished, [.channelNotClosed e, .dispatchFinished count])
  | .finished => .halt

instance : Machine Dispatch := ⟨move⟩

end Dispatch
end Agenda
