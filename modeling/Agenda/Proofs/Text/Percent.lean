import Agenda.Text.Percent
import Agenda.Text.Split
import Agenda.Proofs.Text.Utf8

/-! Escapes of bytes: those that are decoded, and those that are kept for later. -/
namespace Agenda.Text

def escapeOf (c : UInt8) : Bytes :=
  [percent, upperHexDigit (c.toNat / 16), upperHexDigit (c.toNat % 16)]

/-- Some bytes as their escapes, the others as they are. -/
def escapeWhere (p : UInt8 → Bool) (b : Bytes) : Bytes :=
  b.flatMap fun c => if p c then escapeOf c else [c]

variable {p kept : UInt8 → Bool} {c : UInt8} {b rest : Bytes}

theorem escapeWhere_cons : escapeWhere p (c :: b) =
    (if p c then escapeOf c else [c]) ++ escapeWhere p b :=
  List.flatMap_cons

theorem percentEncode_eq (b : Bytes) :
    percentEncode b = escapeWhere (fun c => !isUnreserved c) b := by
  apply List.flatMap_congr
  intro c _
  cases unreserved : isUnreserved c <;> simp [unreserved, escapeOf]

/-! ## Digits -/

theorem hexDigit?_upperHexDigit : ∀ n < 16, hexDigit? (upperHexDigit n) = some n := by decide

theorem isUnreserved_upperHexDigit : ∀ n < 16, isUnreserved (upperHexDigit n) = true := by decide

theorem digitPair?_escapeOf (c : UInt8) (rest : Bytes) :
    digitPair? (upperHexDigit (c.toNat / 16) :: upperHexDigit (c.toNat % 16) :: rest) = some c := by
  have byte := c.toNat_lt
  have number : 16 * (c.toNat / 16) + c.toNat % 16 = c.toNat := Nat.div_add_mod _ _
  simp only [digitPair?, hexDigit?_upperHexDigit (c.toNat / 16) (by omega),
    hexDigit?_upperHexDigit (c.toNat % 16) (by omega), number, UInt8.ofNat_toNat]

/-! ## Decoding -/

theorem percentDecode_plain (plain : c ≠ percent) :
    percentDecode kept (c :: rest) = c :: percentDecode kept rest := by
  simp only [percentDecode, percentDecodeAfter, plain, if_false]

theorem percentDecode_escapeOf : percentDecode kept (escapeOf c ++ rest) =
    (if kept c then escapeOf c else [c]) ++ percentDecode kept rest := by
  have not_percent {n : Nat} (digit : n < 16) : upperHexDigit n ≠ percent := by
    intro same
    have unreserved := isUnreserved_upperHexDigit n digit
    rw [same] at unreserved
    exact absurd unreserved (by decide)
  have byte := c.toNat_lt
  have first := not_percent (n := c.toNat / 16) (by omega)
  have second := not_percent (n := c.toNat % 16) (by omega)
  have pair := digitPair?_escapeOf c rest
  cases keep : kept c with
  | true =>
    simp only [escapeOf, percentDecode, percentDecodeAfter, List.cons_append, List.nil_append, pair,
      keep, first, second, if_true, if_false]
  | false =>
    simp only [escapeOf, percentDecode, percentDecodeAfter, List.cons_append, List.nil_append, pair,
      keep, if_true, Bool.false_eq_true, if_false]

/-- Where percent signs are escaped, just the escapes that are not kept are decoded. -/
theorem percentDecode_escapeWhere (escaped : p percent = true) :
    percentDecode kept (escapeWhere p b) = escapeWhere (fun c => p c && kept c) b := by
  induction b with
  | nil => rfl
  | cons c b ih =>
    rw [escapeWhere_cons, escapeWhere_cons]
    cases here : p c with
    | true => rw [if_pos rfl, percentDecode_escapeOf, ih, Bool.true_and]
    | false =>
      have plain : c ≠ percent := by
        rintro rfl
        rw [escaped] at here
        cases here
      rw [if_neg Bool.false_ne_true, List.singleton_append, percentDecode_plain plain, ih]
      rfl

theorem percentDecode_append {front : Bytes} (plain : percent ∉ front) :
    percentDecode kept (front ++ rest) = front ++ percentDecode kept rest := by
  induction front with
  | nil => rfl
  | cons c front ih =>
    rw [List.mem_cons, not_or] at plain
    rw [List.cons_append, percentDecode_plain (Ne.symm plain.1), ih plain.2, List.cons_append]

theorem percentDecode_ne_nil (some_byte : b ≠ []) : percentDecode kept b ≠ [] := by
  obtain ⟨c, rest, rfl⟩ := List.exists_cons_of_ne_nil some_byte
  simp only [percentDecode, percentDecodeAfter]
  split
  · exact List.cons_ne_nil _ _
  · split <;> exact List.cons_ne_nil _ _

/-! ## Texts -/

/-- The text of bytes below 0x80. -/
def ofAscii (b : Bytes) : String := String.ofList (b.map fun c => Char.ofNat c.toNat)

theorem bytes_ofAscii (ascii : ∀ c ∈ b, c.toNat < 0x80) : bytes (ofAscii b) = b := by
  rw [ofAscii, bytes_ofList, List.flatMap_map]
  induction b with
  | nil => rfl
  | cons c b ih =>
    have here := ascii c (.head _)
    have char := toNat_ofNat_ascii here
    rw [List.flatMap_cons, utf8EncodeChar_ascii (char.symm ▸ here), char, UInt8.ofNat_toNat,
      ih fun c member => ascii c (.tail _ member)]
    rfl

theorem isUnreserved_ascii (unreserved : isUnreserved c = true) : c.toNat < 0x80 := by
  simp only [isUnreserved, Bool.or_eq_true, Bool.and_eq_true, decide_eq_true_eq,
    UInt8.le_iff_toNat_le] at unreserved
  rcases unreserved with (((((⟨-, h⟩ | ⟨-, h⟩) | ⟨-, h⟩) | rfl) | rfl) | rfl) | rfl
  · exact Nat.lt_of_le_of_lt h (by decide)
  · exact Nat.lt_of_le_of_lt h (by decide)
  · exact Nat.lt_of_le_of_lt h (by decide)
  all_goals decide

theorem mem_escapeOf {x : UInt8} (member : x ∈ escapeOf c) :
    x = percent ∨ isUnreserved x = true := by
  have byte := c.toNat_lt
  simp only [escapeOf, List.mem_cons, List.not_mem_nil, or_false] at member
  rcases member with rfl | rfl | rfl
  · exact .inl rfl
  · exact .inr (isUnreserved_upperHexDigit _ (by omega))
  · exact .inr (isUnreserved_upperHexDigit _ (by omega))

theorem mem_percentEncode {x : UInt8} (member : x ∈ percentEncode b) :
    x = percent ∨ isUnreserved x = true := by
  rw [percentEncode_eq, escapeWhere, List.mem_flatMap] at member
  obtain ⟨c, -, member⟩ := member
  split at member
  · exact mem_escapeOf member
  · rename_i unreserved
    rw [List.mem_singleton.mp member]
    exact .inr (by simpa using unreserved)

theorem percentEncode_ascii : ∀ x ∈ percentEncode b, x.toNat < 0x80 := by
  intro x member
  rcases mem_percentEncode member with rfl | unreserved
  · decide
  · exact isUnreserved_ascii unreserved

theorem escapeWhere_none (none : ∀ c ∈ b, p c = false) : escapeWhere p b = b := by
  induction b with
  | nil => rfl
  | cons c b ih =>
    rw [escapeWhere_cons, none c (.head _), if_neg Bool.false_ne_true,
      ih fun c member => none c (.tail _ member)]
    rfl

theorem exists_bytes_escapeChar (ascii : ∀ c, p c = true → c.toNat < 0x80) (c : Char) :
    ∃ t, bytes t = escapeWhere p (String.utf8EncodeChar c) := by
  have alone : bytes (String.ofList [c]) = String.utf8EncodeChar c := by
    rw [bytes_ofList, List.flatMap_singleton]
  by_cases low : c.toNat < 0x80
  · rw [utf8EncodeChar_ascii low] at alone ⊢
    rw [escapeWhere, List.flatMap_singleton]
    split
    · refine ⟨_, bytes_ofAscii fun x member => ?_⟩
      rcases mem_escapeOf member with rfl | unreserved
      · decide
      · exact isUnreserved_ascii unreserved
    · exact ⟨_, alone⟩
  · refine ⟨_, alone.trans (escapeWhere_none fun x member => ?_).symm⟩
    have high := le_of_mem_utf8EncodeChar (Nat.le_of_not_lt low) x member
    exact Bool.eq_false_iff.mpr fun escaped => Nat.not_lt.mpr high (ascii x escaped)

/-- Escaping some of its ASCII characters makes another text of a text. -/
theorem exists_bytes_escapeWhere (ascii : ∀ c, p c = true → c.toNat < 0x80) (s : String) :
    ∃ t, bytes t = escapeWhere p (bytes s) := by
  rw [bytes_eq_flatMap]
  induction s.toList with
  | nil => exact ⟨"", rfl⟩
  | cons c cs ih =>
    obtain ⟨t, later⟩ := ih
    obtain ⟨u, here⟩ := exists_bytes_escapeChar ascii c
    refine ⟨u ++ t, ?_⟩
    rw [bytes_append, here, later, List.flatMap_cons, escapeWhere, escapeWhere, escapeWhere,
      List.flatMap_append]

/-! ## Splitting -/

theorem split_part {α : Type} [DecidableEq α] {separator : α} {part : List α}
    (whole : separator ∉ part) : split separator part = [part] := by
  induction part with
  | nil => rfl
  | cons c part ih =>
    rw [List.mem_cons, not_or] at whole
    simp only [split, Ne.symm whole.1, if_false, ih whole.2]

theorem split_append {α : Type} [DecidableEq α] {separator : α} {part : List α}
    (whole : separator ∉ part) (rest : List α) :
    split separator (part ++ separator :: rest) = part :: split separator rest := by
  induction part with
  | nil => simp only [List.nil_append, split, if_true]
  | cons c part ih =>
    rw [List.mem_cons, not_or] at whole
    simp only [List.cons_append, split, Ne.symm whole.1, if_false, ih whole.2]

end Agenda.Text
