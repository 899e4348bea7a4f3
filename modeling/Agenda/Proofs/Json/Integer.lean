import Agenda.Json.Codec
import Agenda.Proofs.Json.Number
import Agenda.Proofs.Text.Utf8

/-! Reading an integer that was written, as long as nothing follows that would go on with it. -/
namespace Agenda.Json

/-! ## Digits -/

def digitValue (c : Char) : Nat := c.toNat - 48

theorem toNat_of_isDigit {c : Char} (h : c.isDigit = true) : 48 ≤ c.toNat ∧ c.toNat ≤ 57 := by
  simp only [Char.isDigit, Bool.and_eq_true, decide_eq_true_eq, ge_iff_le] at h
  exact h

/-- The byte of a digit. -/
theorem digit?_of_isDigit {c : Char} (h : c.isDigit = true) :
    digit? (UInt8.ofNat c.toNat) = some (digitValue c) := by
  obtain ⟨low, high⟩ := toNat_of_isDigit h
  have number : (UInt8.ofNat c.toNat).toNat = c.toNat := by
    rw [UInt8.toNat_ofNat']
    omega
  have within : 0x30 ≤ UInt8.ofNat c.toNat ∧ UInt8.ofNat c.toNat ≤ 0x39 := by
    rw [UInt8.le_iff_toNat_le, UInt8.le_iff_toNat_le, number]
    exact ⟨low, high⟩
  simp only [digit?, within, and_self, if_true, number, digitValue]

/-- The bytes of digits are digits with their values. -/
theorem allDigits_flatMap {cs : List Char} (numeric : ∀ c ∈ cs, c.isDigit = true) :
    AllDigits (cs.flatMap String.utf8EncodeChar) ∧
      (cs.flatMap String.utf8EncodeChar).filterMap digit? = cs.map digitValue := by
  induction cs with
  | nil => exact ⟨nofun, rfl⟩
  | cons c cs ih =>
    obtain ⟨all, values⟩ := ih fun c member => numeric c (.tail _ member)
    have digit := digit?_of_isDigit (numeric c (.head _))
    have ascii : c.toNat < 0x80 :=
      Nat.lt_of_le_of_lt (toNat_of_isDigit (numeric c (.head _))).2 (by decide)
    rw [List.flatMap_cons, Text.utf8EncodeChar_ascii ascii, List.singleton_append]
    refine ⟨?_, ?_⟩
    · rintro _ (_ | ⟨_, later⟩)
      · exact digit ▸ rfl
      · exact all _ later
    · rw [List.filterMap_cons_some digit, values, List.map_cons]

/-- A number above zero begins with another digit. -/
theorem toDigits_head {n : Nat} (positive : 0 < n) :
    ∃ c cs, Nat.toDigits 10 n = c :: cs ∧ digitValue c ≠ 0 := by
  induction n using Nat.strongRecOn with
  | _ n ih =>
    by_cases small : n < 10
    · refine ⟨n.digitChar, [], Nat.toDigits_of_lt_base small, ?_⟩
      have all : ∀ n < 10, 0 < n → digitValue n.digitChar ≠ 0 := by decide
      exact all n small positive
    · obtain ⟨c, cs, digits, nonzero⟩ := ih (n / 10) (by omega) (by omega)
      refine ⟨c, cs ++ [(n % 10).digitChar], ?_, nonzero⟩
      rw [Nat.toDigits_of_base_le (by decide) (by omega), digits, List.cons_append]

theorem isWhole_toDigits (n : Nat) :
    IsWhole ((Nat.toDigits 10 n).flatMap String.utf8EncodeChar) ∧
      ((Nat.toDigits 10 n).flatMap String.utf8EncodeChar).filterMap digit? =
        (Nat.toDigits 10 n).map digitValue := by
  have numeric : ∀ c ∈ Nat.toDigits 10 n, c.isDigit = true :=
    fun c => Nat.isDigit_of_mem_toDigits (by decide) (by decide)
  obtain ⟨all, values⟩ := allDigits_flatMap numeric
  refine ⟨?_, values⟩
  by_cases zero : n = 0
  · subst zero
    exact .zero
  · obtain ⟨c, cs, eq, nonzero⟩ := toDigits_head (Nat.pos_of_ne_zero zero)
    rw [eq] at numeric all ⊢
    have digit := digit?_of_isDigit (numeric c (.head _))
    have ascii : c.toNat < 0x80 :=
      Nat.lt_of_le_of_lt (toNat_of_isDigit (numeric c (.head _))).2 (by decide)
    rw [List.flatMap_cons, Text.utf8EncodeChar_ascii ascii, List.singleton_append] at all ⊢
    refine .digits all fun same => nonzero ?_
    rw [same] at digit
    exact (Option.some.inj digit).symm

/-! ## Values -/

theorem le_foldl (ds : List Nat) (n : Nat) : n ≤ ds.foldl (fun n d => n * 10 + d) n := by
  induction ds generalizing n with
  | nil => exact Nat.le_refl n
  | cons d ds ih =>
    have later := ih (n * 10 + d)
    rw [List.foldl_cons]
    omega

theorem accumulate_of_le {ds : List Nat} {n : Nat}
    (small : ds.foldl (fun n d => n * 10 + d) n ≤ greatestSignificand) (taken : Nat) :
    accumulate n ds taken = (ds.foldl (fun n d => n * 10 + d) n, taken + ds.length, 0) := by
  induction ds generalizing n taken with
  | nil => rfl
  | cons d ds ih =>
    have here : n * 10 + d ≤ greatestSignificand := Nat.le_trans (le_foldl ds _) small
    rw [accumulate, if_pos here, ih small]
    simp only [List.length_cons, List.foldl_cons, Nat.add_assoc, Nat.add_comm 1]

theorem ofDigits_toDigits (n : Nat) :
    ((Nat.toDigits 10 n).map digitValue).foldl (fun n d => n * 10 + d) 0 = n := by
  have value : Nat.ofDigitChars 10 (Nat.toDigits 10 n) 0 = n :=
    Nat.ofDigitChars_toDigits (by decide) (by decide)
  rw [List.foldl_map]
  refine Eq.trans ?_ value
  unfold Nat.ofDigitChars
  congr 1
  funext n c
  rw [Nat.mul_comm n 10]
  rfl

/-- The value of a plain integer. -/
theorem number_toDigits {negative : Bool} {n : Nat} (small : n ≤ 9223372036854775808)
    (signed : negative = true → n ≠ 0) :
    (⟨negative, (Nat.toDigits 10 n).map digitValue, [], none⟩ : Numeral).number =
      some (.integer (if negative then -n else n)) := by
  have sum := ofDigits_toDigits n
  have fits : ((Nat.toDigits 10 n).map digitValue).foldl (fun n d => n * 10 + d) 0 ≤
      greatestSignificand := by
    rw [sum]
    exact Nat.le_trans small (by decide)
  have sign : negative = false ∨ (n ≠ 0 ∧ n ≤ 9223372036854775808) := by
    cases negative with
    | false => exact .inl rfl
    | true => exact .inr ⟨signed rfl, small⟩
  simp only [Numeral.number, accumulate_of_le fits, sum, sign, and_self, if_true]

theorem numeralFrom_toDigits (negative : Bool) (n : Nat) {rest : Bytes} (ends : EndsNumber rest) :
    numeralFrom negative ((Nat.toDigits 10 n).flatMap String.utf8EncodeChar ++ rest) =
      .ok (⟨negative, (Nat.toDigits 10 n).map digitValue, [], none⟩, rest) := by
  obtain ⟨whole, values⟩ := isWhole_toDigits n
  have read := wholePart_all whole ends.endsDigits
  rw [values] at read
  simp only [numeralFrom, read, fractionPart_none ends.no_point, ends.exponentPart]

/-! ## Integers -/

/-- An integer is read by its first byte and its value. -/
theorem readNumber_toString {n : Int} (low : -9223372036854775808 ≤ n)
    (high : n ≤ 9223372036854775807) {rest : Bytes} (ends : EndsNumber rest) :
    ∃ c more, Text.bytes (toString n) ++ rest = c :: more ∧ (c = 0x2D ∨ (digit? c).isSome) ∧
      isBlank c = false ∧ readNumber (c :: more) = .ok (.integer n, rest) := by
  cases n with
  | ofNat n =>
    obtain ⟨whole, -⟩ := isWhole_toDigits n
    obtain ⟨c, more, first, digit⟩ := whole.head
    obtain ⟨noSign, noBlank⟩ := not_blank_of_digit digit
    have text : Text.bytes (toString (Int.ofNat n)) ++ rest = c :: (more ++ rest) := by
      show Text.bytes n.repr ++ rest = c :: (more ++ rest)
      rw [Nat.repr, Text.bytes_ofList, first]
      rfl
    refine ⟨c, more ++ rest, text, .inr digit, noBlank, ?_⟩
    have read := numeralFrom_toDigits false n ends
    rw [first] at read
    have value : (⟨false, (Nat.toDigits 10 n).map digitValue, [], none⟩ : Numeral).number =
        some (.integer n) :=
      number_toDigits (by change (n : Int) ≤ _ at high; omega) (fun h => nomatch h)
    simp only [List.cons_append] at read
    simp only [readNumber, readNumeral, noSign, if_false, read, value]
    rfl
  | negSucc n =>
    have text : Text.bytes (toString (Int.negSucc n)) ++ rest =
        0x2D :: ((Nat.toDigits 10 (n + 1)).flatMap String.utf8EncodeChar ++ rest) := by
      show Text.bytes ("-" ++ (n + 1).repr) ++ rest = _
      rw [Text.bytes_append, Nat.repr, Text.bytes_ofList (Nat.toDigits 10 (n + 1))]
      rfl
    refine ⟨0x2D, _, text, .inl rfl, rfl, ?_⟩
    have read := numeralFrom_toDigits true (n + 1) ends
    have value : (⟨true, (Nat.toDigits 10 (n + 1)).map digitValue, [], none⟩ : Numeral).number =
        some (.integer (-((n + 1 : Nat) : Int))) :=
      number_toDigits (by omega) (fun _ => Nat.succ_ne_zero n)
    simp only [readNumber, readNumeral, if_true, read, value]
    rfl

theorem readTimestamp_toString (t : Timestamp) {rest : Bytes} (ends : EndsNumber rest) :
    readTimestamp (Text.bytes (toString t.seconds) ++ rest) = .ok (t, rest) := by
  obtain ⟨c, more, text, starts, noBlank, read⟩ := readNumber_toString t.lower t.upper ends
  rw [text]
  simp only [readTimestamp, skipBlanks_cons noBlank, starts, if_true, read, Timestamp.ofInt?_seconds]

end Agenda.Json
