import Agenda.Json.Lexical

/-! JSON numbers: their spelling, and the value a spelling has. -/
namespace Agenda.Json

/-- A number as it is spelled. A fraction that is there has digits; the exponent comes with its
sign, true for a negative one. -/
structure Numeral where
  negative : Bool
  whole : List Nat
  fraction : List Nat
  exponent : Option (Bool × Nat)
deriving DecidableEq

/-- The digits at the front. -/
def digits : Bytes → List Nat × Bytes
  | [] => ([], [])
  | c :: rest => match digit? c with
    | some d => let (ds, rest) := digits rest; (d :: ds, rest)
    | none => ([], c :: rest)

/-- At least one digit. -/
def someDigits (input : Bytes) : Except ReadError (List Nat × Bytes) :=
  match input with
  | [] => .error .truncated
  | c :: rest => match digits (c :: rest) with
    | ([], _) => .error .malformed
    | found => .ok found

/-- No digit but a zero follows a leading zero. -/
def wholePart (input : Bytes) : Except ReadError (List Nat × Bytes) :=
  match someDigits input with
  | .ok (0 :: _ :: _, _) => .error .malformed
  | other => other

def fractionPart : Bytes → Except ReadError (List Nat × Bytes)
  | 0x2E :: rest => someDigits rest
  | rest => .ok ([], rest)

def exponentSign : Bytes → Bool × Bytes
  | 0x2B :: rest => (false, rest)
  | 0x2D :: rest => (true, rest)
  | rest => (false, rest)

def ofDigits (ds : List Nat) : Nat := ds.foldl (fun n d => n * 10 + d) 0

def exponentPart : Bytes → Except ReadError (Option (Bool × Nat) × Bytes)
  | [] => .ok (none, [])
  | c :: rest =>
    if c = 0x65 ∨ c = 0x45 then
      let (negative, rest) := exponentSign rest
      match someDigits rest with
      | .error e => .error e
      | .ok (ds, rest) => .ok (some (negative, ofDigits ds), rest)
    else .ok (none, c :: rest)

def numeralFrom (negative : Bool) (input : Bytes) : Except ReadError (Numeral × Bytes) :=
  match wholePart input with
  | .error e => .error e
  | .ok (whole, input) => match fractionPart input with
    | .error e => .error e
    | .ok (fraction, input) => match exponentPart input with
      | .error e => .error e
      | .ok (exponent, input) => .ok (⟨negative, whole, fraction, exponent⟩, input)

/-- Reads a number, its sign included. -/
def readNumeral : Bytes → Except ReadError (Numeral × Bytes)
  | [] => .error .truncated
  | c :: rest => if c = 0x2D then numeralFrom true rest else numeralFrom false (c :: rest)

/-- Passes over a number. Nobody waits for more of it, so one that is cut short is malformed. -/
def skipNumeral (input : Bytes) : Except ReadError Bytes :=
  match readNumeral input with
  | .ok (_, rest) => .ok rest
  | .error _ => .error .malformed

/-- The value of a number: exact for an integer of at most 64 bits, a binary fraction otherwise. -/
inductive Number
  | integer (n : Int)
  | floating (negative : Bool) (magnitude : Decimal.Binary)
deriving DecidableEq

/-- The largest significand kept. -/
def greatestSignificand : Nat := 18446744073709551615

/-- Appends digits to a significand while it stays in range. Returns how many were appended and
how many left. -/
def accumulate (n : Nat) : List Nat → Nat → Nat × Nat × Nat
  | [], taken => (n, taken, 0)
  | d :: ds, taken =>
    if n * 10 + d ≤ greatestSignificand then accumulate (n * 10 + d) ds (taken + 1)
    else (n, taken, ds.length + 1)

/-- The binary fraction nearest to a power of ten. -/
def powerOfTen (e : Nat) : Option Decimal.Binary := Decimal.Binary.nearest (Decimal.tenTo e) 1

/-- Multiplies by a power of ten in one rounded step, after up to `steps` steps of `10 ^ -308`
where the exponent is below that. A significand of 64 bits is zero after the third. `none` if the
result is too large. -/
def scaleByTen : Nat → Decimal.Binary → Int → Option Decimal.Binary
  | 0, _, _ => some .zero
  | steps + 1, f, e =>
    if f.mantissa = 0 then some f
    else if 308 < e then none
    else if 0 ≤ e then (powerOfTen e.toNat).bind f.mul
    else if -308 ≤ e then (powerOfTen (-e).toNat).bind f.div
    else match (powerOfTen 308).bind f.div with
      | none => none
      | some f => scaleByTen steps f (e + 308)

/-- The largest exponent that is read. -/
def greatestExponent : Nat := 2147483647

/-- The value of a spelling, `none` if it is too large. Digits that a significand of 64 bits has no
room for are dropped: before the point they count as zeros, behind it not at all. -/
def Numeral.number (x : Numeral) : Option Number :=
  let (n, _, zeros) := accumulate 0 x.whole 0
  if zeros = 0 ∧ x.fraction = [] ∧ x.exponent = none ∧
      (x.negative = false ∨ (n ≠ 0 ∧ n ≤ 9223372036854775808)) then
    some (.integer (if x.negative then -n else n))
  else
    let (n, places, _) := accumulate n x.fraction 0
    let scale (e : Int) : Option Number :=
      (Decimal.Binary.nearest n 1).bind fun f =>
        (scaleByTen 4 f (zeros - places + e)).map (.floating x.negative)
    match x.exponent with
    | none => scale 0
    | some (negative, e) =>
      if e ≤ greatestExponent then scale (if negative then -e else e)
      else if n = 0 ∨ negative = true then some (.floating x.negative .zero)
      else none

def Number.found : Number → Found
  | .integer n => .integer n
  | .floating negative m => .floating negative m.shortest

/-- Reads a number and its value. -/
def readNumber (input : Bytes) : Except ReadError (Number × Bytes) :=
  match readNumeral input with
  | .error e => .error e
  | .ok (x, rest) => match x.number with
    | none => .error .malformed
    | some n => .ok (n, rest)

end Agenda.Json
