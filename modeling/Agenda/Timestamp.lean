/-! Instants in whole seconds, kept to the range of a signed 64-bit word. -/
namespace Agenda

/-- Seconds since the epoch. -/
structure Timestamp where
  seconds : Int
  lower : -9223372036854775808 ≤ seconds := by omega
  upper : seconds ≤ 9223372036854775807 := by omega
deriving DecidableEq

namespace Timestamp

theorem ext {a b : Timestamp} (h : a.seconds = b.seconds) : a = b := by
  cases a; cases b; cases h; rfl

def zero : Timestamp := { seconds := 0 }
def least : Timestamp := { seconds := -9223372036854775808 }
def greatest : Timestamp := { seconds := 9223372036854775807 }

instance : Inhabited Timestamp := ⟨zero⟩

/-- The nearest instant in range. -/
def clamp (n : Int) : Timestamp :=
  { seconds := max (-9223372036854775808) (min n 9223372036854775807) }

def ofInt? (n : Int) : Option Timestamp :=
  if h : -9223372036854775808 ≤ n ∧ n ≤ 9223372036854775807 then some ⟨n, h.1, h.2⟩ else none

/-- Later by `n` seconds, stopping at the ends of the range. -/
def shift (t : Timestamp) (n : Int) : Timestamp := clamp (t.seconds + n)

instance : LE Timestamp := ⟨fun a b => a.seconds ≤ b.seconds⟩
instance : LT Timestamp := ⟨fun a b => a.seconds < b.seconds⟩

instance (a b : Timestamp) : Decidable (a ≤ b) :=
  inferInstanceAs (Decidable (a.seconds ≤ b.seconds))

instance (a b : Timestamp) : Decidable (a < b) :=
  inferInstanceAs (Decidable (a.seconds < b.seconds))

theorem clamp_of_mem {n : Int} (lo : -9223372036854775808 ≤ n) (hi : n ≤ 9223372036854775807) :
    (clamp n).seconds = n := by
  simp only [clamp]; omega

theorem ofInt?_seconds (t : Timestamp) : ofInt? t.seconds = some t := by
  simp only [ofInt?, t.lower, t.upper, and_self, dite_true]

end Timestamp
end Agenda
