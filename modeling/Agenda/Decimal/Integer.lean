/-! Integers written in decimal, and what can be wrong with a text that should be one. -/
namespace Agenda.Decimal

inductive IntegerFault
  | empty
  | invalidDigit
  | tooLarge
  | tooSmall
deriving DecidableEq

def IntegerFault.message : IntegerFault → String
  | .empty => "cannot parse integer from empty string"
  | .invalidDigit => "invalid digit found in string"
  | .tooLarge => "number too large to fit in target type"
  | .tooSmall => "number too small to fit in target type"

/-- The value of an ASCII digit. -/
def digit? (c : Char) : Option Nat :=
  if '0' ≤ c ∧ c ≤ '9' then some (c.toNat - 48) else none

/-- Appends digits to the magnitude `n`, up to `limit`. The first thing that is wrong counts. -/
def appendDigits (limit : Nat) (excess : IntegerFault) : Nat → List Char → Except IntegerFault Nat
  | n, [] => .ok n
  | n, c :: rest => match digit? c with
    | none => .error .invalidDigit
    | some d => if n * 10 + d ≤ limit then appendDigits limit excess (n * 10 + d) rest
                else .error excess

/-- Reads a number from `-low` to `high`. A plus sign may lead, and a minus sign where there are
numbers below zero. -/
def readInteger (low high : Nat) (s : String) : Except IntegerFault Int :=
  match s.toList with
  | [] => .error .empty
  | ['+'] => .error .invalidDigit
  | ['-'] => .error .invalidDigit
  | '+' :: ds => Int.ofNat <$> appendDigits high .tooLarge 0 ds
  | '-' :: ds =>
    if low = 0 then .error .invalidDigit
    else (fun n : Nat => - (n : Int)) <$> appendDigits low .tooSmall 0 ds
  | ds => Int.ofNat <$> appendDigits high .tooLarge 0 ds

end Agenda.Decimal
