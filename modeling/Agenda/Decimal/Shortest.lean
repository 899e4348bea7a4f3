import Agenda.Decimal.Binary

/-! The shortest decimal text of a binary fraction: the fewest digits that read back to it. -/
namespace Agenda.Decimal

/-- The number `digits * 10 ^ exponent`. -/
structure Scientific where
  digits : Nat
  exponent : Int
deriving DecidableEq

/-- Moves up to `fuel` zeros at the end of the digits into the exponent. -/
def Scientific.trim : Nat → Scientific → Scientific
  | 0, s => s
  | fuel + 1, s =>
    if s.digits % 10 = 0 ∧ s.digits ≠ 0 then trim fuel ⟨s.digits / 10, s.exponent + 1⟩ else s

/-- `a * 2 ^ e ≤ b * 10 ^ g`. -/
def atMost (a : Nat) (e : Int) (b : Nat) (g : Int) : Bool :=
  a * twoTo e.toNat * tenTo (-g).toNat ≤ b * tenTo g.toNat * twoTo (-e).toNat

/-- `b * 10 ^ g ≤ a * 2 ^ e`. -/
def atLeast (a : Nat) (e : Int) (b : Nat) (g : Int) : Bool :=
  b * tenTo g.toNat * twoTo (-e).toNat ≤ a * twoTo e.toNat * tenTo (-g).toNat

namespace Binary

/-- Whether a decimal is nearer to this value than to its neighbours. An end of that interval
belongs to the even one of the two values that it lies between. -/
def readsBack (b : Binary) (s : Scientific) : Bool :=
  let narrow := b.mantissa = twoTo 52 && decide (b.exponent > -1074)
  let low := 4 * b.mantissa - (if narrow then 1 else 2)
  let high := 4 * b.mantissa + 2
  let e := b.exponent - 2
  if b.mantissa % 2 = 0 then
    atMost low e s.digits s.exponent && atLeast high e s.digits s.exponent
  else
    !(atLeast low e s.digits s.exponent) && !(atMost high e s.digits s.exponent)

/-- The value in units of `10 ^ g`, rounded down. -/
def inUnits (b : Binary) (g : Int) : Nat :=
  b.mantissa * twoTo b.exponent.toNat * tenTo (-g).toNat /
    (tenTo g.toNat * twoTo (-b.exponent).toNat)

/-- The candidate on the grid of `10 ^ g`: of the two neighbours of the value that read back, the
nearer one, and the even one if both are equally near. -/
def onGrid (b : Binary) (g : Int) : Option Scientific :=
  let n := b.inUnits g
  let down : Scientific := ⟨n, g⟩
  let up : Scientific := ⟨n + 1, g⟩
  match b.readsBack down, b.readsBack up with
  | false, false => none
  | true, false => some down
  | false, true => some up
  | true, true =>
    let below := atMost (2 * b.mantissa) b.exponent (2 * n + 1) g
    let above := atLeast (2 * b.mantissa) b.exponent (2 * n + 1) g
    if below && above then some (if n % 2 = 0 then down else up)
    else if below then some down else some up

/-- The least `k` with the value below `10 ^ k`, counted up from `k`. -/
def scale (b : Binary) : Nat → Int → Int
  | 0, k => k
  | fuel + 1, k => if atLeast b.mantissa b.exponent 1 k then b.scale fuel (k + 1) else k

/-- Tries grids of one digit, two digits and so on. -/
def search (b : Binary) (k : Int) : Nat → Nat → Option Scientific
  | 0, _ => none
  | fuel + 1, n => match b.onGrid (k - n) with
    | some s => some s
    | none => b.search k fuel (n + 1)

/-- The decimal of the fewest digits that reads back, seventeen of which always do. -/
def shortest (b : Binary) : Scientific :=
  if b.mantissa = 0 then ⟨0, 0⟩
  else
    let guess := ((Nat.log2 b.mantissa : Int) + b.exponent) * 301 / 1000 - 1
    let k := b.scale 5 guess
    ((b.search k 17 1).getD ⟨b.inUnits (k - 17), k - 17⟩).trim 17

end Binary

/-- Positional with a decimal point up to sixteen digits before the point or four zeros after it,
otherwise with an exponent, which is signed and has as few digits as it needs. -/
def Scientific.text (s : Scientific) : String :=
  let ds := Nat.toDigits 10 s.digits
  let point : Int := ds.length + s.exponent
  if 0 ≤ s.exponent ∧ point ≤ 16 then
    String.ofList (ds ++ List.replicate s.exponent.toNat '0' ++ ['.', '0'])
  else if 0 < point ∧ point ≤ 16 then
    String.ofList (ds.take point.toNat ++ '.' :: ds.drop point.toNat)
  else if -5 < point ∧ point ≤ 0 then
    String.ofList ('0' :: '.' :: List.replicate (-point).toNat '0' ++ ds)
  else
    let size := Nat.toDigits 10 (point - 1).natAbs
    let places := if ds.length = 1 then [] else '.' :: ds.drop 1
    String.ofList (ds.take 1 ++ places ++ 'e' :: (if point ≤ 0 then '-' else '+') :: size)

end Agenda.Decimal
