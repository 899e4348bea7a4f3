import Agenda.Timestamp

/-! Closed ranges of instants, both ends included. -/
namespace Agenda

structure TimeSpan where
  start : Timestamp
  stop : Timestamp
  ordered : start ≤ stop
deriving DecidableEq

/-- Two ends in the wrong order. -/
structure ReversedSpan where
  start : Timestamp
  stop : Timestamp
deriving DecidableEq

def ReversedSpan.message (e : ReversedSpan) : String :=
  s!"Provided timespan start: {e.start.seconds} and end: {e.stop.seconds} is invalid." ++
    " The start can not be after the end."

namespace TimeSpan

def new (start stop : Timestamp) : Except ReversedSpan TimeSpan :=
  if h : start ≤ stop then .ok ⟨start, stop, h⟩ else .error ⟨start, stop⟩

/-- The half-open span of `width` seconds from `start`, as a closed range. A width below
one second counts as one, and the range ends where the timestamps do. -/
def startingAt (start : Timestamp) (width : Int) : TimeSpan where
  start := start
  stop := start.shift (max width 1 - 1)
  ordered := by
    have := start.lower; have := start.upper
    show start.seconds ≤ _
    simp only [Timestamp.shift, Timestamp.clamp]; omega

def contains (s : TimeSpan) (t : Timestamp) : Bool := decide (s.start ≤ t) && decide (t ≤ s.stop)

theorem contains_iff (s : TimeSpan) (t : Timestamp) :
    s.contains t = true ↔ s.start ≤ t ∧ t ≤ s.stop := by
  simp [contains]

end TimeSpan
end Agenda
