import Agenda.Calendar.Retention
import Agenda.Dispatch

/-! A cleanup cycle: it finds the events that have passed the retention time and removes them. One
that cannot be removed does not keep back the others. -/
namespace Agenda

/-- The call that a cycle makes next. -/
inductive Cleanup
  | query (window : TimeSpan)
  | delete (event : Event) (later : List Event) (count : Nat)
  | finished
deriving DecidableEq

namespace Cleanup

/-- The interval that begins where the retention time does. -/
def window (now : Timestamp) (interval : Duration) : TimeSpan :=
  .startingAt (retentionStart now) interval.windowWidth

def start (now : Timestamp) (interval : Duration) : Cleanup := .query (window now interval)

/-- Goes on with the events that were not tried yet, out of `count`. -/
def proceed (count : Nat) (notices : List Notice) : List Event → Cleanup × List Notice
  | [] => (.finished, notices ++ [.cleanupFinished count])
  | e :: later => (.delete e later count, notices)

def move : Cleanup → Move Cleanup
  | .query window => .ask (.findByStartDate window) fun
    | .ok expired => proceed expired.length [] expired
    | .error .empty => (.finished, [.noneExpired window])
    | .error e => (.finished, [.expiredQueryFailed e])
  | .delete event later count => .ask (.delete event.id) fun
    | .ok () => proceed count [] later
    | .error (.notFound _) => proceed count [.alreadyRemoved event.id] later
    | .error e => proceed count [.removalFailed event.id e] later
  | .finished => .halt

instance : Machine Cleanup := ⟨move⟩

end Cleanup
end Agenda
