import Agenda.Event
import Agenda.Storage.Error

/-! Range queries over events: what they select and in which order. -/
namespace Agenda.Query

/-- Orders events by an instant, and those of one instant by their ids. -/
def precedes (key : Event → Timestamp) (a b : Event) : Bool :=
  decide (key a < key b) || (decide (key a = key b) && decide (a.id ≤ b.id))

/-- The events that are asked for, ordered by an instant. -/
def select (asked : Event → Bool) (key : Event → Timestamp) (events : List Event) : List Event :=
  (events.filter asked).mergeSort (precedes key)

/-- A query that matches nothing is answered by an error. -/
def answer (found : List Event) : Except StorageError (List Event) :=
  if found.isEmpty then .error .empty else .ok found

end Agenda.Query
