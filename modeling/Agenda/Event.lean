import Agenda.TimeSpan

/-! The events of a calendar. -/
namespace Agenda

/-- An event of one owner. The id is the caller's choice, and `remindIn` is the instant of the
reminder, not a distance from the start. -/
structure Event where
  id : String
  title : String
  startDate : Timestamp
  endDate : Timestamp
  description : String
  ownerId : String
  remindIn : Timestamp
deriving DecidableEq

namespace Event

def hasValidDates (e : Event) : Bool := decide (e.startDate ≤ e.endDate)

theorem hasValidDates_iff {e : Event} : e.hasValidDates = true ↔ e.startDate ≤ e.endDate :=
  decide_eq_true_iff

def startsWithin (e : Event) (span : TimeSpan) : Bool := span.contains e.startDate

def remindsWithin (e : Event) (span : TimeSpan) : Bool := span.contains e.remindIn

end Event

/-- What an update may change of an event: all but its id. -/
structure Revision where
  title : String
  startDate : Timestamp
  endDate : Timestamp
  description : String
  ownerId : String
  remindIn : Timestamp
deriving DecidableEq

def Revision.withId (r : Revision) (id : String) : Event where
  id := id
  title := r.title
  startDate := r.startDate
  endDate := r.endDate
  description := r.description
  ownerId := r.ownerId
  remindIn := r.remindIn

def Event.revision (e : Event) : Revision where
  title := e.title
  startDate := e.startDate
  endDate := e.endDate
  description := e.description
  ownerId := e.ownerId
  remindIn := e.remindIn

end Agenda
