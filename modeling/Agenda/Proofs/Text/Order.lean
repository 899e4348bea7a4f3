import Agenda.Proofs.Text.Utf8
import Mathlib.Data.List.Lex
import Mathlib.Data.String.Basic

/-! Texts are ordered by their bytes: comparing the characters of two texts comes to the same as
comparing their UTF-8 bytes. -/
namespace Agenda.Text

/-! ## The bytes of one character -/

/-- How many bytes follow the first one, by the code point. -/
def width (v : Nat) : Nat :=
  if v ≤ 0x7F then 0 else if v ≤ 0x7FF then 1 else if v ≤ 0xFFFF then 2 else 3

/-- The first byte: the highest bits, and how many bytes follow. -/
def lead (v : Nat) : Nat :=
  if v ≤ 0x7F then v
  else if v ≤ 0x7FF then v / 64 + 0xC0
  else if v ≤ 0xFFFF then v / 64 ^ 2 + 0xE0
  else v / 64 ^ 3 + 0xF0

/-- The last bytes, six bits in each. -/
def continuations : Nat → Nat → Bytes
  | 0, _ => []
  | k + 1, v => UInt8.ofNat (v / 64 ^ k % 64 + 128) :: continuations k v

theorem toNat_lt_limit (c : Char) : c.toNat < 0x110000 := by
  rcases c.valid with low | high
  · exact Nat.lt_trans low (by decide)
  · exact high.2

theorem utf8EncodeChar_eq (c : Char) : String.utf8EncodeChar c =
    UInt8.ofNat (lead c.toNat) :: continuations (width c.toNat) c.toNat := by
  have limit := toNat_lt_limit c
  have point : c.val.toNat = c.toNat := rfl
  simp only [String.utf8EncodeChar, point, lead, width]
  split_ifs with one two three
  · rfl
  · have high : c.toNat / 64 % 32 = c.toNat / 64 := Nat.mod_eq_of_lt (by omega)
    simp [continuations, high]
  · have high : c.toNat / 4096 % 16 = c.toNat / 4096 := Nat.mod_eq_of_lt (by omega)
    simp [continuations, high]
  · have high : c.toNat / 262144 % 8 = c.toNat / 262144 := Nat.mod_eq_of_lt (by omega)
    simp [continuations, high]

theorem lead_lt_byte {v : Nat} (limit : v < 0x110000) : lead v < 256 := by
  unfold lead
  split_ifs <;> omega

/-- The first bytes of two characters are in order, or they agree in all the bits that they hold. -/
theorem lead_lt {m n : Nat} (less : m < n) :
    lead m < lead n ∨ lead m = lead n ∧ width m = width n ∧
      m / 64 ^ width m = n / 64 ^ width m := by
  unfold lead width
  split_ifs <;> omega

/-- Of two numbers that agree in all higher bits, the bytes of the smaller one come first. -/
theorem continuations_lt {k m n : Nat} (less : m < n) (same : m / 64 ^ k = n / 64 ^ k)
    (s t : Bytes) : continuations k m ++ s < continuations k n ++ t := by
  induction k with
  | zero =>
    rw [pow_zero, Nat.div_one, Nat.div_one] at same
    omega
  | succ k ih =>
    simp only [continuations, List.cons_append, List.cons_lt_cons_iff]
    by_cases lower : m / 64 ^ k = n / 64 ^ k
    · exact .inr ⟨by rw [lower], ih lower⟩
    · left
      have ordered : m / 64 ^ k ≤ n / 64 ^ k := Nat.div_le_div_right less.le
      rw [pow_succ, ← Nat.div_div_eq_div_mul, ← Nat.div_div_eq_div_mul] at same
      rw [UInt8.lt_iff_toNat_lt, UInt8.toNat_ofNat', UInt8.toNat_ofNat']
      omega

/-- The bytes of a character and what follows them, against those of a greater one: the first byte
that differs decides, and it comes before either character ends. -/
theorem utf8EncodeChar_lt {c d : Char} (below : c < d) (s t : Bytes) :
    String.utf8EncodeChar c ++ s < String.utf8EncodeChar d ++ t := by
  have less : c.toNat < d.toNat := below
  rw [utf8EncodeChar_eq, utf8EncodeChar_eq, List.cons_append, List.cons_append,
    List.cons_lt_cons_iff]
  rcases lead_lt less with first | ⟨same, length, bits⟩
  · left
    rw [UInt8.lt_iff_toNat_lt, UInt8.toNat_ofNat_of_lt' (lead_lt_byte (toNat_lt_limit c)),
      UInt8.toNat_ofNat_of_lt' (lead_lt_byte (toNat_lt_limit d))]
    exact first
  · exact .inr ⟨by rw [same], length ▸ continuations_lt less bits s t⟩

/-! ## Whole texts -/

theorem flatMap_utf8EncodeChar_lt {cs ds : List Char} (below : cs < ds) :
    cs.flatMap String.utf8EncodeChar < ds.flatMap String.utf8EncodeChar := by
  induction cs generalizing ds with
  | nil =>
    cases ds with
    | nil => exact absurd below (List.lt_irrefl _)
    | cons d ds =>
      rw [List.flatMap_cons, utf8EncodeChar_eq]
      exact List.nil_lt_cons _ _
  | cons c cs ih =>
    cases ds with
    | nil => exact absurd below (List.not_lt_nil _)
    | cons d ds =>
      rw [List.flatMap_cons, List.flatMap_cons]
      rcases List.cons_lt_cons_iff.mp below with first | ⟨rfl, later⟩
      · exact utf8EncodeChar_lt first _ _
      · exact List.Lex.append_left _ (ih later) _

/-- The order of two texts is that of their bytes. -/
theorem bytes_lt_iff {s t : String} : bytes s < bytes t ↔ s < t := by
  have monotone {s t : String} (below : s < t) : bytes s < bytes t := by
    rw [bytes_eq_flatMap, bytes_eq_flatMap]
    exact flatMap_utf8EncodeChar_lt (String.lt_iff.mp below)
  constructor
  · intro less
    rcases lt_trichotomy s t with below | rfl | above
    · exact below
    · exact absurd less (List.lt_irrefl _)
    · exact absurd less (List.lt_asymm (monotone above))
  · exact monotone

end Agenda.Text
