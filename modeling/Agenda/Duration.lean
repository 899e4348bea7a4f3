/-! Lengths of time in whole milliseconds and the text they are logged with. -/
namespace Agenda

structure Duration where
  milliseconds : Nat
deriving DecidableEq

namespace Duration

def ofSeconds (n : Nat) : Duration := ⟨1000 * n⟩

/-- Whole seconds, the rest cut off. -/
def seconds (d : Duration) : Nat := d.milliseconds / 1000

/-- The decimal places of a number of thousandths below 1000, without the zeros at their end. -/
def places (thousandths : Nat) : List Char :=
  (((Nat.toDigits 10 (1000 + thousandths)).drop 1).reverse.dropWhile (· == '0')).reverse

/-- In seconds from one second on, otherwise in milliseconds, with the decimal places needed to
be exact. No time at all is counted in nanoseconds. -/
def text (d : Duration) : String :=
  if d.milliseconds = 0 then "0ns"
  else if d.milliseconds < 1000 then s!"{d.milliseconds}ms"
  else match places (d.milliseconds % 1000) with
    | [] => s!"{d.seconds}s"
    | ds => s!"{d.seconds}.{String.ofList ds}s"

end Duration
end Agenda
