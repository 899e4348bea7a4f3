import Agenda.Json.Codec
import Agenda.Proofs.Json.Grammar
import Agenda.Proofs.Text.Utf8

/-! Reading strings: in whatever way a text is spelled it is read as that text, and what spells no
text is refused. The spelling that is written is one of them. -/
namespace Agenda.Json

theorem lacks_one {rest : Bytes} (more : rest ≠ []) : lacks 1 rest = false := by
  cases rest with
  | nil => exact absurd rfl more
  | cons b rest => rfl

theorem IsUnit.length {u : Bytes} {n : Nat} (h : IsUnit u n) : u.length = 4 := by
  cases h
  rfl

section StringFrom

variable {seen rest : Bytes} {b : UInt8}

/-- One byte of a string. -/
theorem stringFrom_next {place after : Place} {more : Bytes}
    (inside : ¬ (place = .plain ∧ b = quote)) (next : place.next b = .ok (more, after))
    (enough : lacks after.demand rest = false) :
    stringFrom place seen (b :: rest) = stringFrom after (more.reverse ++ seen) rest := by
  rw [stringFrom, if_neg inside]
  simp only [next, enough]
  rfl

/-- A byte that must not stand in this place. -/
theorem stringFrom_refused {place : Place} {e : ReadError}
    (inside : ¬ (place = .plain ∧ b = quote)) (next : place.next b = .error e) :
    stringFrom place seen (b :: rest) = .error e := by
  rw [stringFrom, if_neg inside]
  simp only [next]

theorem stringFrom_plain (h : IsPlain b) (more : rest ≠ []) :
    stringFrom .plain seen (b :: rest) = stringFrom .plain (b :: seen) rest := by
  have next : Place.plain.next b = .ok ([b], .plain) := by
    simp only [Place.next, h.not_backslash, h.printable, if_false]
  exact stringFrom_next (fun both => h.not_quote both.2) next (lacks_one more)

theorem stringFrom_backslash (more : rest ≠ []) :
    stringFrom .plain seen (backslash :: rest) = stringFrom .escaped seen rest := by
  have next : Place.plain.next backslash = .ok ([], .escaped) := rfl
  exact stringFrom_next (by decide) next (lacks_one more)

/-- A backslash and a letter. -/
theorem stringFrom_short {e : UInt8 × UInt8} (short : e ∈ shortEscapes) (more : rest ≠ []) :
    stringFrom .plain seen (backslash :: e.1 :: rest) = stringFrom .plain (e.2 :: seen) rest := by
  obtain ⟨other, stands⟩ := shortEscape?_of_mem e short
  have next : Place.escaped.next e.1 = .ok ([e.2], .plain) := by
    simp only [Place.next, other, stands, if_false]
  rw [stringFrom_backslash (List.cons_ne_nil _ _)]
  exact stringFrom_next (by simp) next (lacks_one more)

/-- A hexadecimal digit that is not the last of four. -/
theorem stringFrom_hex {left value d : Nat} {high : Option Nat} (digit : Text.hexDigit? b = some d)
    (more : rest.length ≥ left + 1) :
    stringFrom (.hex (left + 2) value high) seen (b :: rest) =
      stringFrom (.hex (left + 1) (value * 16 + d) high) seen rest := by
  have next : (Place.hex (left + 2) value high).next b =
      .ok ([], .hex (left + 1) (value * 16 + d) high) := by
    simp only [Place.next, digit, Nat.add_one_sub_one]
    rw [if_neg (by omega)]
  apply stringFrom_next (by simp) next
  simp only [lacks, Place.demand, Nat.add_sub_cancel, List.isEmpty_eq_false_iff, ne_eq,
    List.drop_eq_nil_iff]
  omega

/-- Four digits, up to the last of them, which ends their number. -/
theorem stringFrom_unit {u : Bytes} {n : Nat} (digits : IsUnit u n) (high : Option Nat) :
    ∃ b before, (∀ seen rest, stringFrom (.hex 4 0 high) seen (u ++ rest) =
        stringFrom (.hex 1 before high) seen (b :: rest)) ∧
      (Place.hex 1 before high).next b = unit n high := by
  cases digits with
  | @digits a b c d w x y z first second third fourth =>
    refine ⟨d, (w * 16 + x) * 16 + y, fun seen rest => ?_, ?_⟩
    · simp only [List.cons_append, List.nil_append]
      rw [stringFrom_hex first (by simp), stringFrom_hex second (by simp),
        stringFrom_hex third (by simp)]
      simp only [Nat.zero_mul, Nat.zero_add]
    · simp only [Place.next, fourth, Nat.le_refl, if_true]

theorem stringFrom_escape {u : Bytes} (long : u.length = 4) :
    stringFrom .plain seen (escape u ++ rest) = stringFrom (.hex 4 0 none) seen (u ++ rest) := by
  have next : Place.escaped.next letterU = .ok ([], .hex 4 0 none) := rfl
  change stringFrom .plain seen (backslash :: letterU :: (u ++ rest)) = _
  rw [stringFrom_backslash (List.cons_ne_nil _ _)]
  refine stringFrom_next (by decide) next ?_
  simp only [lacks, Place.demand, List.isEmpty_eq_false_iff, ne_eq, List.drop_eq_nil_iff,
    List.length_append]
  omega

/-- The second number of a pair. -/
theorem stringFrom_low {u : Bytes} {m : Nat} (long : u.length = 4) :
    stringFrom (.low m) seen (escape u ++ rest) =
      stringFrom (.hex 4 0 (some m)) seen (u ++ rest) := by
  have opened : (Place.low m).next backslash = .ok ([], .lowEscaped m) := rfl
  have next : (Place.lowEscaped m).next letterU = .ok ([], .hex 4 0 (some m)) := rfl
  change stringFrom (.low m) seen (backslash :: letterU :: (u ++ rest)) = _
  rw [stringFrom_next (by simp) opened (lacks_one (List.cons_ne_nil _ _))]
  refine stringFrom_next (by simp) next ?_
  simp only [lacks, Place.demand, List.isEmpty_eq_false_iff, ne_eq, List.drop_eq_nil_iff,
    List.length_append]
  omega

end StringFrom

/-! ## Spellings -/

/-- What follows the inside of a string up to its closing quote is not empty. -/
theorem closed_ne_nil (k rest : Bytes) : k ++ quote :: rest ≠ [] :=
  List.append_ne_nil_of_right_ne_nil k (List.cons_ne_nil _ _)

theorem unit_single {n : Nat} (not_high : ¬ IsHigh n) (not_low : ¬ IsLow n) :
    unit n none = .ok (String.utf8EncodeChar (Char.ofNat n), .plain) := by
  unfold IsHigh at not_high
  unfold IsLow at not_low
  simp only [unit, not_high, not_low, if_false]

theorem unit_high {n : Nat} (high : IsHigh n) : unit n none = .ok ([], .low n) := by
  unfold IsHigh at high
  simp only [unit, high, and_self, if_true]

theorem unit_low {n : Nat} (low : IsLow n) : unit n none = .error .malformed := by
  unfold IsLow at low
  have not_high : ¬ (0xD800 ≤ n ∧ n ≤ 0xDBFF) := by omega
  simp only [unit, not_high, low, and_self, if_false, if_true]

theorem unit_pair (m : Nat) {n : Nat} (low : IsLow n) :
    unit n (some m) = .ok (String.utf8EncodeChar (ofPair m n), .plain) := by
  unfold IsLow at low
  simp only [unit, low, and_self, if_true, ofPair]

theorem unit_unpaired (m : Nat) {n : Nat} (not_low : ¬ IsLow n) :
    unit n (some m) = .error .malformed := by
  unfold IsLow at not_low
  simp only [unit, not_low, if_false]

section Spelled

variable {u k t seen rest : Bytes} {m n : Nat}

theorem stringFrom_single (here : IsUnit u n) (not_high : ¬ IsHigh n) (not_low : ¬ IsLow n)
    (more : rest ≠ []) : stringFrom .plain seen (escape u ++ rest) =
      stringFrom .plain ((String.utf8EncodeChar (Char.ofNat n)).reverse ++ seen) rest := by
  obtain ⟨b, before, digits, next⟩ := stringFrom_unit here none
  rw [unit_single not_high not_low] at next
  rw [stringFrom_escape here.length, digits]
  exact stringFrom_next (by simp) next (lacks_one more)

theorem stringFrom_high (here : IsUnit u n) (high : IsHigh n) (more : rest ≠ []) :
    stringFrom .plain seen (escape u ++ rest) = stringFrom (.low n) seen rest := by
  obtain ⟨b, before, digits, next⟩ := stringFrom_unit here none
  rw [unit_high high] at next
  rw [stringFrom_escape here.length, digits]
  exact stringFrom_next (by simp) next (lacks_one more)

theorem stringFrom_pair (here : IsUnit u n) (low : IsLow n) (more : rest ≠ []) :
    stringFrom (.low m) seen (escape u ++ rest) =
      stringFrom .plain ((String.utf8EncodeChar (ofPair m n)).reverse ++ seen) rest := by
  obtain ⟨b, before, digits, next⟩ := stringFrom_unit here (some m)
  rw [unit_pair m low] at next
  rw [stringFrom_low here.length, digits]
  exact stringFrom_next (by simp) next (lacks_one more)

theorem stringFrom_spelling (h : Spelling k t) :
    stringFrom .plain seen (k ++ quote :: rest) = .ok (seen.reverse ++ t, rest) := by
  induction h generalizing seen with
  | nil => rw [List.nil_append, stringFrom, if_pos ⟨rfl, rfl⟩, List.append_nil]
  | plain here _ ih =>
    rw [List.cons_append, stringFrom_plain here (closed_ne_nil _ _), ih, List.reverse_cons,
      List.append_assoc, List.singleton_append]
  | short here _ ih =>
    rw [List.cons_append, List.cons_append, stringFrom_short here (closed_ne_nil _ _), ih,
      List.reverse_cons, List.append_assoc, List.singleton_append]
  | single here not_high not_low _ ih =>
    rw [List.append_assoc, stringFrom_single here not_high not_low (closed_ne_nil _ _), ih,
      List.reverse_append, List.reverse_reverse, List.append_assoc]
  | pair first high second low _ ih =>
    rw [List.append_assoc, List.append_assoc, stringFrom_high first high (by simp [escape]),
      stringFrom_pair second low (closed_ne_nil _ _), ih, List.reverse_append,
      List.reverse_reverse, List.append_assoc]

/-- A spelling spells one text only. -/
theorem Spelling.unique {t' : Bytes} (h : Spelling k t) (h' : Spelling k t') : t = t' := by
  have read : stringFrom .plain [] (k ++ quote :: []) = _ := stringFrom_spelling h
  rw [stringFrom_spelling h'] at read
  exact (Prod.mk.inj (Except.ok.inj read)).1.symm

theorem Entry.IsNamed.unique {e : Entry} {s s' : String} (h : e.IsNamed s) (h' : e.IsNamed s') :
    s = s' := by
  have same : Text.bytes s = Text.bytes s' := Spelling.unique h h'
  have text := Text.ofBytes?_bytes s
  rw [same, Text.ofBytes?_bytes] at text
  exact (Option.some.inj text).symm

/-- What stands between the quotes cannot be read from this place on. -/
def Refused (place : Place) (k : Bytes) : Prop :=
  ∀ seen rest, ∃ e, stringFrom place seen (k ++ quote :: rest) = .error e

/-- The inside of a string spells something or is refused. After the first number of a pair that
goes for what is left of the pair. -/
theorem IsInner.spelled_or_refused (h : IsInner k) :
    ((∃ t, Spelling k t) ∨ Refused .plain k) ∧
      ∀ m, (∃ v n l t, k = escape v ++ l ∧ IsUnit v n ∧ IsLow n ∧ Spelling l t) ∨
        Refused (.low m) k := by
  have no_backslash {b : UInt8} {k : Bytes} (other : b ≠ backslash) (m : Nat) :
      ∀ seen rest, ∃ e, stringFrom (.low m) seen (b :: (k ++ rest)) = .error e := by
    intro seen rest
    have next : (Place.low m).next b = .error .malformed := by
      simp only [Place.next, other, if_false]
    exact ⟨_, stringFrom_refused (by simp) next⟩
  induction h with
  | nil =>
    refine ⟨.inl ⟨[], .nil⟩, fun m => .inr fun seen rest => ?_⟩
    exact no_backslash (k := []) (by decide) m seen rest
  | @plain b k here _ ih =>
    refine ⟨?_, fun m => .inr fun seen rest => no_backslash here.not_backslash m seen _⟩
    rcases ih.1 with ⟨t, spelling⟩ | refused
    · exact .inl ⟨_, .plain here spelling⟩
    · refine .inr fun seen rest => ?_
      rw [List.cons_append, stringFrom_plain here (closed_ne_nil _ _)]
      exact refused _ _
  | @short e k here _ ih =>
    refine ⟨?_, fun m => .inr fun seen rest => ?_⟩
    · rcases ih.1 with ⟨t, spelling⟩ | refused
      · exact .inl ⟨_, .short here spelling⟩
      · refine .inr fun seen rest => ?_
        rw [List.cons_append, List.cons_append, stringFrom_short here (closed_ne_nil _ _)]
        exact refused _ _
    · have opened : (Place.low m).next backslash = .ok ([], .lowEscaped m) := rfl
      have next : (Place.lowEscaped m).next e.1 = .error .malformed := by
        simp only [Place.next, (shortEscape?_of_mem e here).1, if_false]
      rw [List.cons_append, List.cons_append,
        stringFrom_next (by simp) opened (lacks_one (List.cons_ne_nil _ _))]
      exact ⟨_, stringFrom_refused (by simp) next⟩
  | @unit u k n here _ ih =>
    constructor
    · by_cases high : IsHigh n
      · rcases ih.2 n with ⟨v, n', l, t, rfl, second, low, spelling⟩ | refused
        · exact .inl ⟨_, .pair here high second low spelling⟩
        · refine .inr fun seen rest => ?_
          rw [List.append_assoc, stringFrom_high here high (closed_ne_nil _ _)]
          exact refused _ _
      · by_cases low : IsLow n
        · refine .inr fun seen rest => ?_
          obtain ⟨b, before, digits, next⟩ := stringFrom_unit here none
          rw [unit_low low] at next
          rw [List.append_assoc, stringFrom_escape here.length, digits]
          exact ⟨_, stringFrom_refused (by simp) next⟩
        · rcases ih.1 with ⟨t, spelling⟩ | refused
          · exact .inl ⟨_, .single here high low spelling⟩
          · refine .inr fun seen rest => ?_
            rw [List.append_assoc, stringFrom_single here high low (closed_ne_nil _ _)]
            exact refused _ _
    · intro m
      by_cases low : IsLow n
      · rcases ih.1 with ⟨t, spelling⟩ | refused
        · exact .inl ⟨u, n, k, t, rfl, here, low, spelling⟩
        · refine .inr fun seen rest => ?_
          rw [List.append_assoc, stringFrom_pair here low (closed_ne_nil _ _)]
          exact refused _ _
      · refine .inr fun seen rest => ?_
        obtain ⟨b, before, digits, next⟩ := stringFrom_unit here (some m)
        rw [unit_unpaired m low] at next
        rw [List.append_assoc, stringFrom_low here.length, digits]
        exact ⟨_, stringFrom_refused (by simp) next⟩

theorem readString_spelling {s : String} (h : Spelling k (Text.bytes s)) (rest : Bytes) :
    readString (k ++ quote :: rest) = .ok (s, rest) := by
  simp only [readString, stringFrom_spelling h, List.reverse_nil, List.nil_append,
    Text.ofBytes?_bytes]

/-- Nothing but the text that is spelled is read, up to the closing quote. -/
theorem spelling_of_readString {s : String} {after : Bytes} (inner : IsInner k)
    (read : readString (k ++ quote :: rest) = .ok (s, after)) :
    Spelling k (Text.bytes s) ∧ after = rest := by
  rcases inner.spelled_or_refused.1 with ⟨t, spelling⟩ | refused
  · simp only [readString, stringFrom_spelling spelling, List.reverse_nil, List.nil_append] at read
    cases text : Text.ofBytes? t with
    | none =>
      rw [text] at read
      cases read
    | some s' =>
      rw [text] at read
      cases read
      exact ⟨(Text.bytes_of_ofBytes? text).symm ▸ spelling, rfl⟩
  · obtain ⟨e, error⟩ := refused [] rest
    simp only [readString, error] at read
    cases read

end Spelled

/-! ## The spelling that is written -/

/-- The digit of a number below 16 that stands in an escape. -/
def lowerHexDigit (n : Nat) : UInt8 := if n < 10 then .ofNat (0x30 + n) else .ofNat (0x57 + n)

theorem hexDigit?_lowerHexDigit : ∀ n < 16, Text.hexDigit? (lowerHexDigit n) = some n := by decide

theorem bytes_controlEscape : ∀ n < 0x20,
    (controlEscape (Char.ofNat n)).flatMap String.utf8EncodeChar =
      escape [0x30, 0x30, lowerHexDigit (n / 16), lowerHexDigit (n % 16)] := by
  decide

theorem isPlain_of_mem {c : Char} (printable : ¬ c.toNat < 0x20) (not_quote : c ≠ '\"')
    (not_backslash : c ≠ '\\') : ∀ b ∈ String.utf8EncodeChar c, IsPlain b := by
  intro b hb
  by_cases ascii : c.toNat < 0x80
  · rw [Text.utf8EncodeChar_ascii ascii, List.mem_singleton] at hb
    have number : b.toNat = c.toNat := by
      rw [hb, UInt8.toNat_ofNat']
      omega
    have differs (n : Nat) (h : c ≠ Char.ofNat n) : b.toNat ≠ n := by
      rw [number]
      rintro rfl
      exact h (Char.ofNat_toNat c).symm
    constructor
    · rw [UInt8.lt_iff_toNat_lt, number]
      exact printable
    · exact fun same => differs 0x22 not_quote (congrArg UInt8.toNat same)
    · exact fun same => differs 0x5C not_backslash (congrArg UInt8.toNat same)
  · have high := Text.le_of_mem_utf8EncodeChar (Nat.le_of_not_lt ascii) b hb
    constructor
    · rw [UInt8.lt_iff_toNat_lt]
      exact Nat.not_lt.mpr (Nat.le_trans (by decide) high)
    · rintro rfl
      exact absurd high (by decide)
    · rintro rfl
      exact absurd high (by decide)

theorem Spelling.plains {bs k t : Bytes} (plain : ∀ b ∈ bs, IsPlain b) (later : Spelling k t) :
    Spelling (bs ++ k) (bs ++ t) := by
  induction bs with
  | nil => exact later
  | cons b bs ih => exact .plain (plain b (.head _)) (ih fun b hb => plain b (.tail _ hb))

theorem Spelling.escapeChar (c : Char) {k t : Bytes} (later : Spelling k t) :
    Spelling ((Json.escapeChar c).flatMap String.utf8EncodeChar ++ k)
      (String.utf8EncodeChar c ++ t) := by
  by_cases short : c ∈ ['\"', '\\', '\x08', '\x0c', '\n', '\r', '\t']
  · simp only [List.mem_cons, List.not_mem_nil, or_false] at short
    rcases short with rfl | rfl | rfl | rfl | rfl | rfl | rfl
    · exact .short (e := (quote, quote)) (by decide) later
    · exact .short (e := (backslash, backslash)) (by decide) later
    · exact .short (e := (0x62, 0x08)) (by decide) later
    · exact .short (e := (0x66, 0x0C)) (by decide) later
    · exact .short (e := (0x6E, 0x0A)) (by decide) later
    · exact .short (e := (0x72, 0x0D)) (by decide) later
    · exact .short (e := (0x74, 0x09)) (by decide) later
  · simp only [List.mem_cons, List.not_mem_nil, or_false, not_or] at short
    obtain ⟨not_quote, not_backslash, h8, h12, h10, h13, h9⟩ := short
    simp only [Json.escapeChar, not_quote, not_backslash, h8, h12, h10, h13, h9, if_false]
    by_cases control : c.toNat < 0x20
    · have bytes := bytes_controlEscape c.toNat control
      rw [Char.ofNat_toNat] at bytes
      have zero : Text.hexDigit? 0x30 = some 0 := rfl
      have digits := IsUnit.digits zero zero
        (hexDigit?_lowerHexDigit (c.toNat / 16) (by omega))
        (hexDigit?_lowerHexDigit (c.toNat % 16) (by omega))
      have number : ((0 * 16 + 0) * 16 + c.toNat / 16) * 16 + c.toNat % 16 = c.toNat := by omega
      rw [number] at digits
      have spelled :=
        Spelling.single digits (by unfold IsHigh; omega) (by unfold IsLow; omega) later
      rw [Char.ofNat_toNat] at spelled
      rw [if_pos control, bytes]
      exact spelled
    · rw [if_neg control, List.flatMap_singleton]
      exact .plains (isPlain_of_mem control not_quote not_backslash) later

/-- The text of a string up to its closing quote. -/
def inner (s : String) : Bytes := (s.toList.flatMap escapeChar).flatMap String.utf8EncodeChar

theorem spelling_inner (s : String) : Spelling (inner s) (Text.bytes s) := by
  rw [inner, Text.bytes_eq_flatMap]
  induction s.toList with
  | nil => exact .nil
  | cons c cs ih =>
    rw [List.flatMap_cons, List.flatMap_append, List.flatMap_cons]
    exact ih.escapeChar c

/-- A text is a value as it is written. -/
theorem isValue_inner (s : String) : IsValue (quoted (inner s)) :=
  .scalar (b := []) (by decide) (.text (spelling_inner s).isInner)

theorem bytes_writeText (s : String) : Text.bytes (writeText s) = quote :: inner s ++ [quote] := by
  rw [writeText, Text.bytes_ofList, List.cons_append, List.flatMap_cons, List.flatMap_append]
  rfl

theorem readString_inner (s : String) (rest : Bytes) :
    readString (inner s ++ quote :: rest) = .ok (s, rest) :=
  readString_spelling (spelling_inner s) rest

theorem readText_writeText (s : String) (rest : Bytes) :
    readText (Text.bytes (writeText s) ++ rest) = .ok (s, rest) := by
  rw [bytes_writeText, List.append_assoc, List.singleton_append, List.cons_append]
  simp only [readText, skipBlanks_cons (c := quote) rfl, if_true]
  exact readString_inner s rest

end Agenda.Json
