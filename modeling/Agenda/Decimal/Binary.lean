/-! Binary fractions of 53 significant bits: the numbers that a double-precision word holds. -/
namespace Agenda.Decimal

def twoTo (n : Nat) : Nat := Nat.pow 2 n
def tenTo (n : Nat) : Nat := Nat.pow 10 n

/-- The magnitude `mantissa * 2 ^ exponent`. -/
structure Binary where
  mantissa : Nat
  exponent : Int
deriving DecidableEq

namespace Binary

def zero : Binary := ⟨0, 0⟩

/-- `n / d` rounded to the nearest integer, a half to the even neighbour. -/
def roundDiv (n d : Nat) : Nat :=
  let q := n / d
  let r := n % d
  if 2 * r > d ∨ (2 * r = d ∧ q % 2 = 1) then q + 1 else q

/-- The fraction `n / d` times `2 ^ e`, as a fraction. -/
def scaled (n d : Nat) (e : Int) : Nat × Nat :=
  if 0 ≤ e then (n * twoTo e.toNat, d) else (n, d * twoTo (-e).toNat)

/-- The largest `e` with `2 ^ e ≤ n / d`. -/
def magnitude (n d : Nat) : Int :=
  let e : Int := (Nat.log2 n : Int) - Nat.log2 d
  let (p, q) := scaled 1 1 e
  if p * d ≤ n * q then e else e - 1

/-- The value nearest to `n / d`, ties to the even mantissa; `none` above the largest one. -/
def nearest (n d : Nat) : Option Binary :=
  if n = 0 then some zero
  else
    let e := max (magnitude n d - 52) (-1074)
    let (p, q) := scaled n d (-e)
    let m := roundDiv p q
    let (m, e) := if m = twoTo 53 then (twoTo 52, e + 1) else (m, e)
    if e > 971 then none else some ⟨m, e⟩

/-- The value as a fraction. -/
def fraction (b : Binary) : Nat × Nat := scaled b.mantissa 1 b.exponent

def mul (a b : Binary) : Option Binary :=
  let (n, d) := a.fraction
  let (p, q) := b.fraction
  nearest (n * p) (d * q)

def div (a b : Binary) : Option Binary :=
  let (n, d) := a.fraction
  let (p, q) := b.fraction
  nearest (n * q) (d * p)

end Binary
end Agenda.Decimal
