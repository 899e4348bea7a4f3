import Agenda.Text.Utf8
import Mathlib.Data.List.Basic

/-! The bytes of a text, character by character, and the text of its bytes. -/
namespace Agenda.Text

theorem bytes_ofList (cs : List Char) :
    bytes (String.ofList cs) = cs.flatMap String.utf8EncodeChar := by
  unfold bytes
  rw [String.toByteArray_ofList, List.utf8Encode, List.toList_data_toByteArray]

theorem bytes_eq_flatMap (s : String) : bytes s = s.toList.flatMap String.utf8EncodeChar := by
  rw [← bytes_ofList, String.ofList_toList]

theorem bytes_append (s t : String) : bytes (s ++ t) = bytes s ++ bytes t := by
  rw [bytes_eq_flatMap, bytes_eq_flatMap, bytes_eq_flatMap, String.toList_append,
    List.flatMap_append]

theorem ofBytes?_bytes (s : String) : ofBytes? (bytes s) = some s := by
  unfold ofBytes? String.fromUTF8?
  have same : (⟨(bytes s).toArray⟩ : ByteArray) = s.toByteArray := by
    unfold bytes
    rw [Array.toArray_toList]
  rw [same, dif_pos s.isValidUTF8]
  rfl

theorem bytes_of_ofBytes? {b : Bytes} {s : String} (text : ofBytes? b = some s) : bytes s = b := by
  unfold ofBytes? String.fromUTF8? at text
  split at text
  · cases text
    exact List.toList_toArray
  · cases text

/-- A character below U+0080 is one byte. -/
theorem utf8EncodeChar_ascii {c : Char} (h : c.toNat < 0x80) :
    String.utf8EncodeChar c = [UInt8.ofNat c.toNat] := by
  unfold String.utf8EncodeChar
  have small : c.val.toNat ≤ 127 := Nat.le_of_lt_succ h
  rw [if_pos small]
  rfl

theorem toNat_ofNat_ascii {n : Nat} (h : n < 0x80) : (Char.ofNat n).toNat = n := by
  have valid : n.isValidChar := .inl (Nat.lt_trans h (by decide))
  rw [Char.ofNat, dif_pos valid]
  rfl

/-- All bytes of any other character are above that range. -/
theorem le_of_mem_utf8EncodeChar {c : Char} (h : 0x80 ≤ c.toNat) :
    ∀ b ∈ String.utf8EncodeChar c, 0x80 ≤ b.toNat := by
  unfold String.utf8EncodeChar
  have large : ¬ c.val.toNat ≤ 127 := Nat.not_le.mpr h
  rw [if_neg large]
  intro b hb
  split at hb
  · simp only [List.mem_cons, List.not_mem_nil, or_false] at hb
    rcases hb with rfl | rfl <;> rw [UInt8.toNat_ofNat'] <;> omega
  · split at hb
    · simp only [List.mem_cons, List.not_mem_nil, or_false] at hb
      rcases hb with rfl | rfl | rfl <;> rw [UInt8.toNat_ofNat'] <;> omega
    · simp only [List.mem_cons, List.not_mem_nil, or_false] at hb
      rcases hb with rfl | rfl | rfl | rfl <;> rw [UInt8.toNat_ofNat'] <;> omega

end Agenda.Text
