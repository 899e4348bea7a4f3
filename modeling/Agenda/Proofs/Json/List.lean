import Agenda.Proofs.Json.Record

/-! Reading an array that was written. -/
namespace Agenda.Json

/-- What is written begins with a byte that is neither a blank nor the end of an array. -/
def Codec.Opens {α : Type} (codec : Codec α) : Prop :=
  ∀ x, ∃ c rest, codec.encode x = c :: rest ∧ isBlank c = false ∧ c ≠ closeBracket

/-- An object opens with a brace. -/
theorem Codec.record_opens {α ρ σ : Type} (name : String) (fs : Fields ρ σ) (make : ρ → α)
    (parts : α → ρ) : (Codec.record name fs make parts).Opens := by
  intro x
  have first : (record name fs make parts).encode x =
      openBrace :: (Text.bytes (",".intercalate (fs.members (parts x))) ++ [closeBrace]) := by
    simp only [encode, record, Fields.write, Text.bytes_append, List.append_assoc]
    rfl
  exact ⟨openBrace, _, first, by decide, by decide⟩

theorem endsNumber_closeBracket (rest : Bytes) : EndsNumber (closeBracket :: rest) := by
  intro c hc
  cases hc
  decide

variable {α : Type} {item : Codec α}

/-- The elements after the first. -/
def Codec.others (item : Codec α) (xs : List α) : Bytes :=
  xs.flatMap fun x => comma :: item.encode x

theorem endsNumber_others (item : Codec α) (xs : List α) (rest : Bytes) :
    EndsNumber (item.others xs ++ closeBracket :: rest) := by
  cases xs with
  | nil => exact endsNumber_closeBracket rest
  | cons x xs => exact endsNumber_comma _

theorem length_le_others (item : Codec α) (xs : List α) : xs.length ≤ (item.others xs).length := by
  induction xs with
  | nil => exact Nat.le_refl _
  | cons x xs ih =>
    simp only [Codec.others, List.flatMap_cons, List.length_append, List.length_cons] at ih ⊢
    omega

theorem nextElement_first (opens : item.Opens) (x : α) (rest : Bytes) :
    nextElement true (item.encode x ++ rest) = .ok (true, item.encode x ++ rest) := by
  obtain ⟨c, more, encoded, visible, other⟩ := opens x
  simp only [encoded, List.cons_append, nextElement, skipBlanks_cons visible, other, if_false,
    if_true]

theorem nextElement_comma (opens : item.Opens) (x : α) (rest : Bytes) :
    nextElement false (comma :: item.encode x ++ rest) = .ok (true, item.encode x ++ rest) := by
  obtain ⟨c, more, encoded, visible, other⟩ := opens x
  have goes_on : comma ≠ closeBracket := by decide
  simp only [encoded, List.cons_append, nextElement, skipBlanks_cons (c := comma) rfl, goes_on,
    skipBlanks_cons visible, other, if_false, if_true, Bool.false_eq_true]

theorem nextElement_close (first : Bool) (rest : Bytes) :
    nextElement first (closeBracket :: rest) = .ok (false, closeBracket :: rest) := by
  simp only [nextElement, skipBlanks_cons (c := closeBracket) rfl, if_true]

theorem readElements_others (faithful : item.Faithful) (opens : item.Opens) {xs : List α}
    {fuel : Nat} (enough : xs.length < fuel) (seen : List α) (rest : Bytes) :
    readElements item fuel false seen (item.others xs ++ closeBracket :: rest) =
      .ok (seen.reverse ++ xs, closeBracket :: rest) := by
  induction xs generalizing fuel seen with
  | nil =>
    obtain ⟨fuel, rfl⟩ := Nat.exists_eq_succ_of_ne_zero (Nat.ne_zero_of_lt enough)
    simp only [Codec.others, List.flatMap_nil, List.nil_append, readElements, nextElement_close,
      List.append_nil]
  | cons x xs ih =>
    obtain ⟨fuel, rfl⟩ := Nat.exists_eq_succ_of_ne_zero (Nat.ne_zero_of_lt enough)
    have input : item.others (x :: xs) ++ closeBracket :: rest =
        comma :: item.encode x ++ (item.others xs ++ closeBracket :: rest) := by
      simp only [Codec.others, List.flatMap_cons, List.append_assoc]
    have later := ih (Nat.lt_of_succ_lt_succ enough) (x :: seen)
    rw [List.reverse_cons, List.append_assoc, List.singleton_append] at later
    simp only [input, readElements, nextElement_comma opens,
      faithful x _ (endsNumber_others item xs rest), later]

theorem endArray_close (rest : Bytes) : endArray (closeBracket :: rest) = .ok rest := by
  simp only [endArray, skipBlanks_cons (c := closeBracket) rfl, if_true]

/-- The elements of an array are read back, all of them and in their order. -/
theorem Codec.list_faithful (faithful : item.Faithful) (opens : item.Opens) :
    (Codec.list item).Faithful := by
  intro xs rest _
  cases xs with
  | nil =>
    have input : (Codec.list item).encode [] ++ rest = openBracket :: closeBracket :: rest := rfl
    rw [input]
    simp only [Codec.list, readList, skipBlanks_cons (c := openBracket) rfl, if_true, readElements,
      nextElement_close, List.reverse_nil, endArray_close]
  | cons x xs =>
    have input : (Codec.list item).encode (x :: xs) ++ rest =
        openBracket :: (item.encode x ++ (item.others xs ++ closeBracket :: rest)) := by
      simp only [Codec.encode, Codec.list, writeList, List.map_cons, Text.bytes_append,
        Fields.bytes_intercalate, List.flatMap_map, List.append_assoc, others]
      rfl
    have enough :
        xs.length < (item.encode x ++ (item.others xs ++ closeBracket :: rest)).length := by
      have wide := length_le_others item xs
      simp only [List.length_append, List.length_cons]
      omega
    have elements := readElements_others faithful opens enough [x] rest
    rw [List.reverse_singleton, List.singleton_append] at elements
    rw [input]
    simp only [Codec.list, readList, skipBlanks_cons (c := openBracket) rfl, if_true, readElements,
      nextElement_first opens, faithful x _ (endsNumber_others item xs rest), elements,
      endArray_close]

end Agenda.Json
