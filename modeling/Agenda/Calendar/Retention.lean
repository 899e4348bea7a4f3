import Agenda.Calendar.Date
import Agenda.TimeSpan

/-! How long events are kept: one year of the calendar. -/
namespace Agenda

/-- The day number of the first day of the epoch. -/
def epochDay : Int := 719162

def secondsPerDay : Int := 86400

def secondsPerYear : Int := 365 * secondsPerDay

/-- The years in which the calendar is reckoned with. -/
def inCalendar (d : Date) : Bool := decide (-262143 ≤ d.year) && decide (d.year ≤ 262142)

/-- The same time of the same day one year ago, or 365 days ago where one of the two days is outside
the years of the calendar. -/
def retentionStart (now : Timestamp) : Timestamp :=
  let today := Date.ofDayNumber (now.seconds / secondsPerDay + epochDay)
  let earlier := today.yearBefore
  if inCalendar today && inCalendar earlier then
    .clamp ((earlier.dayNumber - epochDay) * secondsPerDay + now.seconds % secondsPerDay)
  else now.shift (-secondsPerYear)

end Agenda
