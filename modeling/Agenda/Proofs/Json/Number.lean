import Agenda.Proofs.Json.Grammar

/-! Reading numbers: each is read to its end, as long as nothing follows that would go on with it,
and how long it is does not depend on its value. -/
namespace Agenda.Json

/-- What follows is no part of a number. -/
def EndsNumber (rest : Bytes) : Prop :=
  ∀ c, rest.head? = some c → digit? c = none ∧ c ≠ 0x2E ∧ c ≠ 0x65 ∧ c ≠ 0x45

theorem endsNumber_nil : EndsNumber [] := by
  intro c hc
  cases hc

theorem endsNumber_comma (rest : Bytes) : EndsNumber (comma :: rest) := by
  intro c hc
  cases hc
  decide

theorem EndsNumber.no_point {rest : Bytes} (h : EndsNumber rest) : rest.head? ≠ some 0x2E :=
  fun point => (h _ point).2.1 rfl

theorem fractionPart_none {rest : Bytes} (no_point : rest.head? ≠ some 0x2E) :
    fractionPart rest = .ok ([], rest) := by
  unfold fractionPart
  split
  · exact absurd rfl no_point
  · rfl

theorem EndsNumber.exponentPart {rest : Bytes} (h : EndsNumber rest) :
    exponentPart rest = .ok (none, rest) := by
  cases rest with
  | nil => rfl
  | cons c rest =>
    obtain ⟨-, -, small, capital⟩ := h c rfl
    have neither : ¬ (c = 0x65 ∨ c = 0x45) := not_or.mpr ⟨small, capital⟩
    simp only [Json.exponentPart, neither, if_false]

/-- No digit comes next. -/
def EndsDigits (rest : Bytes) : Prop := ∀ c, rest.head? = some c → digit? c = none

theorem EndsNumber.endsDigits {rest : Bytes} (h : EndsNumber rest) : EndsDigits rest :=
  fun c next => (h c next).1

theorem endsDigits_cons {c : UInt8} (other : digit? c = none) (rest : Bytes) :
    EndsDigits (c :: rest) := by
  rintro _ ⟨⟩
  exact other

theorem eq_zero_of_digit? {d : UInt8} (digit : digit? d = some 0) : d = 0x30 := by
  unfold digit? at digit
  split at digit
  · rename_i within
    have low := UInt8.le_iff_toNat_le.mp within.1
    have none_left : d.toNat - 0x30 = 0 := Option.some.inj digit
    exact UInt8.toNat_inj.mp (Nat.le_antisymm (Nat.sub_eq_zero_iff_le.mp none_left) low)
  · cases digit

section Parts

variable {ds rest : Bytes}

theorem digits_all (all : AllDigits ds) (ends : EndsDigits rest) :
    digits (ds ++ rest) = (ds.filterMap digit?, rest) := by
  induction ds with
  | nil =>
    cases rest with
    | nil => rfl
    | cons c rest => simp only [List.nil_append, digits, ends c rfl, List.filterMap_nil]
  | cons d ds ih =>
    obtain ⟨value, digit⟩ := Option.isSome_iff_exists.mp (all d (.head _))
    have later := ih fun c member => all c (.tail _ member)
    simp only [List.cons_append, digits, digit, later, List.filterMap_cons_some digit]

theorem someDigits_all (all : AllDigits ds) (some_digit : ds ≠ []) (ends : EndsDigits rest) :
    someDigits (ds ++ rest) = .ok (ds.filterMap digit?, rest) := by
  obtain ⟨d, ds, rfl⟩ := List.exists_cons_of_ne_nil some_digit
  obtain ⟨value, digit⟩ := Option.isSome_iff_exists.mp (all d (.head _))
  have read := digits_all all ends
  rw [List.filterMap_cons_some digit] at read ⊢
  rw [List.cons_append] at read ⊢
  simp only [someDigits, read]

theorem wholePart_all {whole : Bytes} (h : IsWhole whole) (ends : EndsDigits rest) :
    wholePart (whole ++ rest) = .ok (whole.filterMap digit?, rest) := by
  cases h with
  | zero =>
    have read : someDigits ([0x30] ++ rest) = _ := someDigits_all (by decide) (by decide) ends
    have zero : [(0x30 : UInt8)].filterMap digit? = [0] := rfl
    rw [zero] at read ⊢
    simp only [wholePart, read]
  | @digits d ds all nonzero =>
    have read := someDigits_all all (List.cons_ne_nil _ _) ends
    obtain ⟨value, digit⟩ := Option.isSome_iff_exists.mp (all d (.head _))
    have positive : value ≠ 0 := by
      rintro rfl
      exact nonzero (eq_zero_of_digit? digit)
    rw [List.filterMap_cons_some digit] at read ⊢
    unfold wholePart
    rw [read]
    split
    · rename_i same
      injection same with same
      injection same with same
      injection same with same
      exact absurd same positive
    · rfl

theorem fractionPart_all {fraction : Bytes} (h : IsFraction fraction) (ends : EndsDigits rest)
    (no_point : rest.head? ≠ some 0x2E) :
    ∃ ns, fractionPart (fraction ++ rest) = .ok (ns, rest) := by
  cases h with
  | none => exact ⟨[], fractionPart_none no_point⟩
  | @digits ds all some_digit => exact ⟨_, someDigits_all all some_digit ends⟩

theorem exponentSign_all {sign : Bytes} (signed : sign = [] ∨ sign = [0x2B] ∨ sign = [0x2D])
    (all : AllDigits ds) (some_digit : ds ≠ []) :
    ∃ negative, exponentSign (sign ++ (ds ++ rest)) = (negative, ds ++ rest) := by
  rcases signed with rfl | rfl | rfl
  · obtain ⟨d, ds, rfl⟩ := List.exists_cons_of_ne_nil some_digit
    have digit := all d (.head _)
    refine ⟨false, ?_⟩
    unfold exponentSign
    split
    · rename_i same
      cases same
      cases digit
    · rename_i same
      cases same
      cases digit
    · rfl
  · exact ⟨false, rfl⟩
  · exact ⟨true, rfl⟩

theorem exponentPart_all {exponent : Bytes} (h : IsExponent exponent) (ends : EndsNumber rest) :
    ∃ x, exponentPart (exponent ++ rest) = .ok (x, rest) := by
  cases h with
  | none => exact ⟨none, ends.exponentPart⟩
  | @digits e sign ds letter signed all some_digit =>
    obtain ⟨negative, after⟩ : ∃ negative,
        exponentSign (sign ++ (ds ++ rest)) = (negative, ds ++ rest) :=
      exponentSign_all signed all some_digit
    have read := someDigits_all all some_digit ends.endsDigits
    refine ⟨some (negative, ofDigits (ds.filterMap digit?)), ?_⟩
    simp only [List.cons_append, List.append_assoc, exponentPart, letter, if_true, after, read]

end Parts

/-- The first byte of an exponent, or of what follows a number, belongs to no part before it. -/
theorem endsDigits_exponent {exponent rest : Bytes} (h : IsExponent exponent)
    (ends : EndsNumber rest) :
    EndsDigits (exponent ++ rest) ∧ (exponent ++ rest).head? ≠ some 0x2E := by
  cases h with
  | none => exact ⟨ends.endsDigits, ends.no_point⟩
  | digits letter =>
    rcases letter with rfl | rfl <;> exact ⟨endsDigits_cons rfl _, by simp⟩

theorem numeralFrom_all {whole fraction exponent rest : Bytes} (w : IsWhole whole)
    (f : IsFraction fraction) (e : IsExponent exponent) (ends : EndsNumber rest) (negative : Bool) :
    ∃ x, numeralFrom negative (whole ++ (fraction ++ (exponent ++ rest))) = .ok (x, rest) := by
  obtain ⟨no_digit, no_point⟩ := endsDigits_exponent e ends
  have behind : EndsDigits (fraction ++ (exponent ++ rest)) := by
    cases f with
    | none => exact no_digit
    | digits => exact endsDigits_cons rfl _
  obtain ⟨ns, fraction_read⟩ := fractionPart_all f no_digit no_point
  obtain ⟨x, exponent_read⟩ := exponentPart_all e ends
  refine ⟨⟨negative, whole.filterMap digit?, ns, x⟩, ?_⟩
  simp only [numeralFrom, wholePart_all w behind, fraction_read, exponent_read]

theorem IsWhole.head {whole : Bytes} (h : IsWhole whole) :
    ∃ d ds, whole = d :: ds ∧ (digit? d).isSome := by
  cases h with
  | zero => exact ⟨0x30, [], rfl, rfl⟩
  | digits all => exact ⟨_, _, rfl, all _ (.head _)⟩

/-- A number begins with a sign or a digit. -/
theorem IsNumber.head {v : Bytes} (h : IsNumber v) :
    ∃ c more, v = c :: more ∧ (c = 0x2D ∨ (digit? c).isSome) := by
  cases h with
  | parts signed w =>
    rcases signed with rfl | rfl
    · obtain ⟨d, ds, rfl, digit⟩ := w.head
      exact ⟨d, _, rfl, .inr digit⟩
    · exact ⟨0x2D, _, rfl, .inl rfl⟩

theorem not_blank_of_digit {c : UInt8} (h : (digit? c).isSome) : c ≠ 0x2D ∧ isBlank c = false := by
  have low : 0x30 ≤ c := by
    unfold digit? at h
    split at h
    · rename_i within
      exact within.1
    · cases h
  constructor
  · rintro rfl
    exact absurd low (by decide)
  · simp only [isBlank, Bool.or_eq_false_iff, decide_eq_false_iff_not]
    refine ⟨⟨⟨?_, ?_⟩, ?_⟩, ?_⟩ <;> rintro rfl <;> exact absurd low (by decide)

/-- What a number begins with is nothing else. -/
theorem ne_of_starts {c d : UInt8} (starts : c = 0x2D ∨ (digit? c).isSome) (no_sign : d ≠ 0x2D)
    (no_digit : digit? d = none) : c ≠ d := by
  rintro rfl
  rcases starts with sign | digit
  · exact no_sign sign
  · rw [no_digit] at digit
    cases digit

theorem visible_of_starts {c : UInt8} (starts : c = 0x2D ∨ (digit? c).isSome) :
    isBlank c = false := by
  rcases starts with rfl | digit
  · rfl
  · exact (not_blank_of_digit digit).2

theorem IsNumber.readNumeral {v rest : Bytes} (h : IsNumber v) (ends : EndsNumber rest) :
    ∃ x, readNumeral (v ++ rest) = .ok (x, rest) := by
  cases h with
  | @parts sign whole fraction exponent signed w f e =>
    rcases signed with rfl | rfl
    · obtain ⟨x, read⟩ := numeralFrom_all w f e ends false
      obtain ⟨d, ds, rfl, digit⟩ := w.head
      have no_sign := (not_blank_of_digit digit).1
      refine ⟨x, ?_⟩
      simp only [List.nil_append, List.cons_append, List.append_assoc] at read ⊢
      simp only [Json.readNumeral, no_sign, if_false, read]
    · obtain ⟨x, read⟩ := numeralFrom_all w f e ends true
      refine ⟨x, ?_⟩
      simp only [List.cons_append, List.nil_append, List.append_assoc, Json.readNumeral, if_true,
        read]

theorem IsNumber.skipNumeral {v rest : Bytes} (h : IsNumber v) (ends : EndsNumber rest) :
    skipNumeral (v ++ rest) = .ok rest := by
  obtain ⟨x, read⟩ := h.readNumeral ends
  simp only [Json.skipNumeral, read]

/-- Whatever its value, a number is read to its end. -/
theorem IsNumber.readNumber {v rest after : Bytes} {x : Number} (h : IsNumber v)
    (ends : EndsNumber rest) (read : readNumber (v ++ rest) = .ok (x, after)) : after = rest := by
  obtain ⟨numeral, found⟩ := h.readNumeral ends
  simp only [Json.readNumber, found] at read
  split at read
  · cases read
  · cases read
    rfl

end Agenda.Json
