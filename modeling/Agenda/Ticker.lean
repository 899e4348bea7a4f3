import Agenda.Duration

/-! When the cycles of a worker are due, in milliseconds. -/
namespace Agenda

structure Ticker where
  period : Nat
  due : Nat
deriving DecidableEq

namespace Ticker

/-- The latest instant that the machine can tell, in seconds since it was switched on. -/
def horizon : Nat := 9223372036854775807

/-- The first tick comes one period after the start. There are no ticks without a period, nor ticks
after the horizon. `uptime` is how many seconds the machine was on before time began. -/
def start? (uptime now : Nat) (period : Duration) : Option Ticker :=
  if period.milliseconds = 0 then none
  else if horizon < uptime + (now + period.milliseconds) / 1000 then none
  else some ⟨period.milliseconds, now + period.milliseconds⟩

/-- How late a tick may be heard without moving the next one. -/
def tolerance : Nat := 5

/-- Whether no tick can come after one that is heard at `now`: it is too late to keep to its time, and
a period after `now` is beyond the horizon. -/
def isLast (t : Ticker) (uptime now : Nat) : Bool :=
  decide (t.due + tolerance < now ∧ horizon < uptime + (now + t.period) / 1000)

/-- The ticker after a tick that is heard at `now`. One that is heard too late moves the ticks after
it: the next comes a full period after `now`. -/
def heard (t : Ticker) (now : Nat) : Ticker :=
  { t with due := if t.due + tolerance < now then now + t.period else t.due + t.period }

end Ticker
end Agenda
