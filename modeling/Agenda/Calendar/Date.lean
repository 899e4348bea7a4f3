/-! Days of the Gregorian calendar, which is extended to all years before and after its use. -/
namespace Agenda

structure Date where
  year : Int
  /-- From 1 to 12. -/
  month : Nat
  /-- From 1 on. -/
  day : Nat
deriving DecidableEq

namespace Date

def isLeap (y : Int) : Bool := y % 4 = 0 && (y % 100 ≠ 0 || y % 400 = 0)

def monthLength (y : Int) (m : Nat) : Nat :=
  if m = 2 then (if isLeap y then 29 else 28)
  else if m = 4 ∨ m = 6 ∨ m = 9 ∨ m = 11 then 30 else 31

/-- The days from the beginning of year 1 to that of year `y`. -/
def daysBeforeYear (y : Int) : Int :=
  365 * (y - 1) + (y - 1) / 4 - (y - 1) / 100 + (y - 1) / 400

/-- The days of a year before the first of a month. -/
def daysBeforeMonth (y : Int) : (m : Nat) → Nat
  | 0 | 1 => 0
  | m + 1 => daysBeforeMonth y m + monthLength y m

/-- The days from 1 January of year 1 on. -/
def dayNumber (d : Date) : Int :=
  daysBeforeYear d.year + daysBeforeMonth d.year d.month + (d.day - 1)

/-- The year that a day is in. -/
def yearOf (n : Int) : Int :=
  let cycle := n / 146097
  let r := n % 146097
  let century := min (r / 36524) 3
  let r := r - 36524 * century
  let four := r / 1461
  let r := r - 1461 * four
  let one := min (r / 365) 3
  400 * cycle + 100 * century + 4 * four + one + 1

/-- The month of a year, from `m` on, and the day of it, `n` days after the first of `m`. -/
def inMonth (y : Int) : Nat → Nat → Nat → Nat × Nat
  | 0, m, n => (m, n + 1)
  | later + 1, m, n =>
    if n < monthLength y m then (m, n + 1) else inMonth y later (m + 1) (n - monthLength y m)

def ofDayNumber (n : Int) : Date :=
  let y := yearOf n
  let (m, d) := inMonth y 11 1 (n - daysBeforeYear y).toNat
  ⟨y, m, d⟩

/-- The same day of the year before. The last day of a month takes the place of a day that the
month does not have in that year. -/
def yearBefore (d : Date) : Date :=
  ⟨d.year - 1, d.month, min d.day (monthLength (d.year - 1) d.month)⟩

end Date
end Agenda
