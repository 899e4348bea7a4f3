import Agenda.Proofs.Text.Order
import Mathlib.Data.List.Forall2
import Mathlib.Tactic.Ring

/-! Reading bytes that need not be a text: what is one is read as it is, and of bytes that are there
something is read. -/
namespace Agenda.Text

/-! ## Well-formed characters -/

/-- The byte lies in the range. -/
def Within (b : UInt8) (range : UInt8 × UInt8) : Prop := range.1 ≤ b ∧ b ≤ range.2

theorem lossyChars_within {xs : Bytes} {ranges : List (UInt8 × UInt8)}
    (within : List.Forall₂ Within xs ranges) (some_range : ranges ≠ []) (first : UInt8)
    (seen rest : Bytes) : lossyChars (some (first, seen, ranges)) (xs ++ rest) =
      assemble first (seen.reverse ++ xs) :: lossyChars none rest := by
  induction within generalizing seen with
  | nil => exact absurd rfl some_range
  | @cons x range xs more here later ih =>
    unfold Within at here
    cases more with
    | nil =>
      cases later
      simp only [List.cons_append, lossyChars, here, and_self, List.isEmpty_nil, if_true,
        List.reverse_cons, List.nil_append]
    | cons next more =>
      simp only [List.cons_append, lossyChars, here, and_self, List.isEmpty_cons, if_true,
        Bool.false_eq_true, if_false, ih (List.cons_ne_nil _ _), List.reverse_cons,
        List.append_assoc, List.nil_append]

theorem within_ofNat {n low high : Nat} (above : low ≤ n) (below : n ≤ high) (byte : high < 256) :
    Within (.ofNat n) (.ofNat low, .ofNat high) := by
  have small {m : Nat} (le : m ≤ high) : (UInt8.ofNat m).toNat = m :=
    UInt8.toNat_ofNat_of_lt' (Nat.lt_of_le_of_lt le byte)
  constructor
  · rw [UInt8.le_iff_toNat_le, small below, small (Nat.le_trans above below)]
    exact above
  · rw [UInt8.le_iff_toNat_le, small below, small (Nat.le_refl high)]
    exact below

/-- Any last byte of a character. -/
theorem within_last (v : Nat) : Within (.ofNat (v % 64 + 128)) (0x80, 0xBF) :=
  within_ofNat (by omega : 0x80 ≤ v % 64 + 128) (by omega : v % 64 + 128 ≤ 0xBF) (by decide)

theorem continuation_ascii : ∀ n ≤ 0x7F, continuation (.ofNat n) = some [] := by decide

theorem continuation_two :
    ∀ n < 0x20, 2 ≤ n → continuation (.ofNat (n + 0xC0)) = some [(0x80, 0xBF)] := by decide

/-- The second byte keeps characters from being spelled with more bytes than they need, or where
there are none. -/
theorem continuation_three : ∀ n < 0x10, continuation (.ofNat (n + 0xE0)) =
    some [(.ofNat (if n = 0 then 0xA0 else 0x80), .ofNat (if n = 0xD then 0x9F else 0xBF)),
      (0x80, 0xBF)] := by
  decide

theorem continuation_four : ∀ n < 5, continuation (.ofNat (n + 0xF0)) =
    some [(.ofNat (if n = 0 then 0x90 else 0x80), .ofNat (if n = 4 then 0x8F else 0xBF)),
      (0x80, 0xBF), (0x80, 0xBF)] := by
  decide

/-- What the first byte of a character says of the others. -/
theorem continuation_lead {v : Nat} (valid : v.isValidChar) : ∃ ranges,
    continuation (.ofNat (lead v)) = some ranges ∧
      List.Forall₂ Within (continuations (width v) v) ranges := by
  have limit : v < 0xD800 ∨ 0xDFFF < v ∧ v < 0x110000 := valid
  have last := within_last v
  rw [← Nat.div_one v, ← pow_zero 64] at last
  unfold lead width
  split_ifs with one two three
  · exact ⟨_, continuation_ascii v one, .nil⟩
  · exact ⟨_, continuation_two (v / 64) (by omega) (by omega), .cons last .nil⟩
  · refine ⟨_, continuation_three (v / 64 ^ 2) (by omega), .cons ?_ (.cons last .nil)⟩
    apply within_ofNat <;> split_ifs <;> omega
  · refine ⟨_, continuation_four (v / 64 ^ 3) (by omega),
      .cons ?_ (.cons (within_last _) (.cons last .nil))⟩
    apply within_ofNat <;> split_ifs <;> omega

theorem length_continuations (k v : Nat) : (continuations k v).length = k := by
  induction k with
  | zero => rfl
  | succ k ih => rw [continuations, List.length_cons, ih]

/-- Six bits of each byte go behind those that are there. -/
theorem foldl_continuations (k v n : Nat) :
    (continuations k v).foldl (fun n b => n * 64 + b.toNat % 64) n = n * 64 ^ k + v % 64 ^ k := by
  induction k generalizing n with
  | zero => rw [continuations, List.foldl_nil, pow_zero, Nat.mul_one, Nat.mod_one, Nat.add_zero]
  | succ k ih =>
    have bits : (UInt8.ofNat (v / 64 ^ k % 64 + 128)).toNat % 64 = v / 64 ^ k % 64 := by
      rw [UInt8.toNat_ofNat']
      omega
    rw [continuations, List.foldl_cons, ih, bits, Nat.mod_pow_succ, pow_succ]
    ring

/-- The highest bits are those of the first byte. -/
theorem lead_mod {v : Nat} (limit : v < 0x110000) (several : 0 < width v) :
    lead v % 2 ^ (6 - width v) = v / 64 ^ width v := by
  unfold lead width at *
  split_ifs at several ⊢ <;> omega

theorem assemble_lead {v : Nat} (limit : v < 0x110000) :
    assemble (.ofNat (lead v)) (continuations (width v) v) = Char.ofNat v := by
  have byte : (UInt8.ofNat (lead v)).toNat = lead v := UInt8.toNat_ofNat_of_lt' (lead_lt_byte limit)
  simp only [assemble, foldl_continuations, byte, length_continuations]
  congr 1
  by_cases one : width v = 0
  · have small : v ≤ 0x7F := by
      unfold width at one
      split_ifs at one
      assumption
    rw [one]
    simp [continuations, lead, small, Nat.mod_one]
  · have several : (continuations (width v) v).isEmpty = false := by
      rw [List.isEmpty_eq_false_iff, ← List.length_pos_iff, length_continuations]
      exact Nat.pos_of_ne_zero one
    have high := lead_mod limit (Nat.pos_of_ne_zero one)
    rw [several, if_neg Bool.false_ne_true]
    exact (congrArg (· * _ + _) high).trans (Nat.div_add_mod' v _)

/-! ## Texts -/

theorem lossyChars_utf8EncodeChar (c : Char) (rest : Bytes) :
    lossyChars none (String.utf8EncodeChar c ++ rest) = c :: lossyChars none rest := by
  obtain ⟨ranges, first, within⟩ := continuation_lead (v := c.toNat) c.valid
  have whole := assemble_lead (toNat_lt_limit c)
  rw [Char.ofNat_toNat] at whole
  rw [utf8EncodeChar_eq, List.cons_append]
  cases ranges with
  | nil =>
    have alone := List.forall₂_nil_right_iff.mp within
    rw [alone] at whole ⊢
    simp only [lossyChars, first, whole, List.nil_append]
  | cons range more =>
    have read := lossyChars_within within (List.cons_ne_nil _ _) (.ofNat (lead c.toNat)) [] rest
    rw [List.reverse_nil, List.nil_append, whole] at read
    simp only [lossyChars, first, read]

/-- A text is read as it is. -/
theorem ofBytesLossy_bytes (s : String) : ofBytesLossy (bytes s) = s := by
  have chars (cs : List Char) : lossyChars none (cs.flatMap String.utf8EncodeChar) = cs := by
    induction cs with
    | nil => rfl
    | cons c cs ih => rw [List.flatMap_cons, lossyChars_utf8EncodeChar, ih]
  rw [ofBytesLossy, bytes_eq_flatMap, chars, String.ofList_toList]

/-- A character that has begun gives something, whatever follows. -/
theorem lossyChars_some_ne_nil (begun : UInt8 × List UInt8 × List (UInt8 × UInt8)) (rest : Bytes) :
    lossyChars (some begun) rest ≠ [] := by
  induction rest generalizing begun with
  | nil => exact List.cons_ne_nil _ _
  | cons b rest ih =>
    obtain ⟨first, seen, ranges⟩ := begun
    cases ranges with
    | nil => exact List.cons_ne_nil _ _
    | cons range more =>
      simp only [lossyChars]
      split
      · split
        · exact List.cons_ne_nil _ _
        · exact ih _
      · split <;> exact List.cons_ne_nil _ _

/-- Of some bytes some text is read. -/
theorem ofBytesLossy_ne_empty {b : Bytes} (some_byte : b ≠ []) : ofBytesLossy b ≠ "" := by
  obtain ⟨c, rest, rfl⟩ := List.exists_cons_of_ne_nil some_byte
  have chars : lossyChars none (c :: rest) ≠ [] := by
    simp only [lossyChars]
    split
    · exact List.cons_ne_nil _ _
    · exact List.cons_ne_nil _ _
    · exact lossyChars_some_ne_nil _ _
  intro empty
  apply chars
  rw [← String.toList_ofList (l := lossyChars none (c :: rest))]
  exact congrArg String.toList empty

end Agenda.Text
