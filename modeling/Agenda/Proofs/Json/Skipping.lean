import Agenda.Proofs.Json.Number

/-! Passing over a value: whatever it is and however deep it goes, what is passed over is this one
value and nothing else. -/
namespace Agenda.Json

/-- The bytes spell some value, which a reader can pass over. -/
def IsSkipped (v : Bytes) : Prop := ∀ rest, EndsNumber rest → skipValue (v ++ rest) = .ok rest

/-! ## Strings -/

section SkipString

variable {b : UInt8} {k rest : Bytes}

theorem skipStringFrom_plain (h : IsPlain b) :
    skipStringFrom .plain (b :: rest) = skipStringFrom .plain rest := by
  simp only [skipStringFrom, h.not_quote, h.not_backslash, h.printable, if_false]

theorem skipStringFrom_short {e : UInt8 × UInt8} (short : e ∈ shortEscapes) :
    skipStringFrom .plain (backslash :: e.1 :: rest) = skipStringFrom .plain rest := by
  obtain ⟨other, stands⟩ := shortEscape?_of_mem e short
  have not_quote : backslash ≠ quote := by decide
  simp only [skipStringFrom, not_quote, other, stands, Option.isSome_some, if_false, if_true]

/-- A hexadecimal digit that is not the last of four, and the last one. -/
theorem skipStringFrom_hex {left d : Nat} (digit : Text.hexDigit? b = some d) :
    skipStringFrom (.hex (left + 2)) (b :: rest) = skipStringFrom (.hex (left + 1)) rest := by
  simp only [skipStringFrom, digit, Option.isNone_some, Bool.false_eq_true, if_false]
  rw [if_neg (by omega)]
  rfl

theorem skipStringFrom_lastHex {d : Nat} (digit : Text.hexDigit? b = some d) :
    skipStringFrom (.hex 1) (b :: rest) = skipStringFrom .plain rest := by
  simp only [skipStringFrom, digit, Option.isNone_some, Bool.false_eq_true, if_false]
  rfl

/-- Whatever number it is, it has four digits. -/
theorem skipStringFrom_unit {u : Bytes} {n : Nat} (here : IsUnit u n) :
    skipStringFrom .plain (escape u ++ rest) = skipStringFrom .plain rest := by
  cases here with
  | digits first second third fourth =>
    simp only [escape, List.cons_append, List.nil_append]
    change skipStringFrom (.hex 4) _ = _
    rw [skipStringFrom_hex first, skipStringFrom_hex second, skipStringFrom_hex third,
      skipStringFrom_lastHex fourth]

theorem skipStringFrom_inner (h : IsInner k) :
    skipStringFrom .plain (k ++ quote :: rest) = .ok rest := by
  induction h with
  | nil => rfl
  | plain here _ ih => rw [List.cons_append, skipStringFrom_plain here, ih]
  | short here _ ih => rw [List.cons_append, List.cons_append, skipStringFrom_short here, ih]
  | unit here _ ih => rw [List.append_assoc, skipStringFrom_unit here, ih]

end SkipString

/-! ## Values that hold no others -/

theorem endsNumber_blanks {b rest : Bytes} (blanks : IsBlanks b) (ends : EndsNumber rest) :
    EndsNumber (b ++ rest) := by
  cases b with
  | nil => exact ends
  | cons c b =>
    have blank : isBlank c = true := blanks c (.head _)
    simp only [isBlank, Bool.or_eq_true, decide_eq_true_eq] at blank
    rintro _ ⟨⟩
    rcases blank with ((rfl | rfl) | rfl) | rfl <;> decide

theorem endsNumber_closing (frame : Frame) (rest : Bytes) : EndsNumber (frame.closing :: rest) := by
  rintro _ ⟨⟩
  cases frame <;> decide

theorem literal_append (word rest : Bytes) : literal word (word ++ rest) = .ok rest := by
  induction word with
  | nil => rfl
  | cons w word ih => rw [List.cons_append, literal, if_pos rfl, ih]

/-- The first byte of a value tells what it is, and what follows it is passed over. -/
theorem IsScalar.first {v : Bytes} (h : IsScalar v) : ∃ c more, v = c :: more ∧
    isBlank c = false ∧ c ≠ openBracket ∧ c ≠ openBrace ∧ c ≠ closeBracket ∧
      ∀ rest, EndsNumber rest → skipScalar c (more ++ rest) = .ok rest := by
  cases h with
  | null =>
    exact ⟨_, _, rfl, rfl, by decide, by decide, by decide, fun rest _ => literal_append _ _⟩
  | yes =>
    exact ⟨_, _, rfl, rfl, by decide, by decide, by decide, fun rest _ => literal_append _ _⟩
  | no =>
    exact ⟨_, _, rfl, rfl, by decide, by decide, by decide, fun rest _ => literal_append _ _⟩
  | @text k inner =>
    refine ⟨quote, _, rfl, rfl, by decide, by decide, by decide, fun rest _ => ?_⟩
    rw [List.append_assoc]
    exact skipStringFrom_inner inner
  | number h =>
    obtain ⟨c, more, rfl, starts⟩ := h.head
    have marks (d : UInt8) : d ≠ 0x2D → digit? d = none → c ≠ d := ne_of_starts starts
    refine ⟨c, more, rfl, visible_of_starts starts, marks _ (by decide) rfl,
      marks _ (by decide) rfl, marks _ (by decide) rfl, fun rest ends => ?_⟩
    have number := h.skipNumeral ends
    rw [List.cons_append] at number
    simp only [skipScalar, marks 0x6E (by decide) rfl, marks 0x74 (by decide) rfl,
      marks 0x66 (by decide) rfl, marks quote (by decide) rfl, starts, if_false, if_true, number]

/-! ## Steps -/

section Steps

variable {fuel : Nat} {stack : List Frame} {frame : Frame} {b rest input next : Bytes}

theorem skipFrom_scalar {v : Bytes} (before : IsBlanks b) (h : IsScalar v)
    (ends : EndsNumber rest) :
    skipFrom (fuel + 1) stack .value (b ++ v ++ rest) = skipFrom fuel stack .after rest := by
  obtain ⟨c, more, rfl, visible, no_array, no_object, -, passed⟩ := h.first
  rw [List.append_assoc, List.cons_append]
  simp only [skipFrom, skipBlanks_append before, skipBlanks_cons visible, no_array, no_object,
    if_false, passed rest ends]

theorem skipFrom_open (before : IsBlanks b) :
    skipFrom (fuel + 1) stack .value (b ++ frame.opening :: rest) =
      skipFrom fuel (frame :: stack) .opened rest := by
  cases frame with
  | array => simp only [skipFrom, Frame.opening, skipBlanks_append before,
      skipBlanks_cons (c := openBracket) rfl, if_true]
  | object =>
    have other : openBrace ≠ openBracket := by decide
    simp only [skipFrom, Frame.opening, skipBlanks_append before,
      skipBlanks_cons (c := openBrace) rfl, other, if_false, if_true]

theorem Frame.closing_visible (frame : Frame) : isBlank frame.closing = false := by
  cases frame <;> rfl

theorem Frame.closes_iff (frame : Frame) (c : UInt8) :
    frame.closes c = true ↔ c = frame.closing := by
  cases frame <;> exact decide_eq_true_iff

theorem skipFrom_empty (blank : IsBlanks b) :
    skipFrom (fuel + 1) (frame :: stack) .opened (b ++ frame.closing :: rest) =
      skipFrom fuel stack .after rest := by
  simp only [skipFrom, skipBlanks_append blank, skipBlanks_cons frame.closing_visible,
    frame.closes_iff, if_true]

theorem skipFrom_close (behind : IsBlanks b) :
    skipFrom (fuel + 1) (frame :: stack) .after (b ++ frame.closing :: rest) =
      skipFrom fuel stack .after rest := by
  simp only [skipFrom, skipBlanks_append behind, skipBlanks_cons frame.closing_visible,
    frame.closes_iff, if_true]

theorem skipFrom_comma (behind : IsBlanks b) (enter : skipToValue input frame = .ok next) :
    skipFrom (fuel + 1) (frame :: stack) .after (b ++ comma :: input) =
      skipFrom fuel (frame :: stack) .value next := by
  have other : comma ≠ frame.closing := by cases frame <;> decide
  simp only [skipFrom, skipBlanks_append behind, skipBlanks_cons (c := comma) rfl,
    frame.closes_iff, other, if_false, if_true, enter]

/-- Blanks before a value do not count. -/
theorem skipFrom_blanks (before : IsBlanks b) :
    skipFrom fuel stack .value (b ++ input) = skipFrom fuel stack .value input := by
  cases fuel with
  | zero => cases stack <;> rfl
  | succ fuel => simp only [skipFrom, skipBlanks_append before]

theorem skipFrom_opened {c : UInt8} (before : IsBlanks b) (visible : isBlank c = false)
    (other : c ≠ frame.closing) (enter : skipToValue (b ++ c :: rest) frame = .ok next) :
    skipFrom (fuel + 1) (frame :: stack) .opened (b ++ c :: rest) =
      skipFrom fuel (frame :: stack) .value next := by
  cases frame with
  | array =>
    cases enter
    simp only [skipFrom, skipBlanks_append before, skipBlanks_cons visible, Frame.closes_iff,
      other, if_false, skipFrom_blanks before]
  | object =>
    have key : skipKey (c :: rest) = .ok next := by
      rw [← enter]
      simp only [skipToValue, skipKey, skipBlanks_append before]
    simp only [skipFrom, skipBlanks_append before, skipBlanks_cons visible, Frame.closes_iff,
      other, if_false, key]

theorem Leads.enter {name lead : Bytes} (h : Leads name frame lead) (rest : Bytes) :
    skipToValue (lead ++ rest) frame = .ok rest := by
  cases h with
  | element => rfl
  | @member a b before inner behind =>
    simp only [skipToValue, skipKey, List.append_assoc, List.cons_append,
      skipBlanks_append before, skipBlanks_cons (c := quote) rfl, if_true,
      skipStringFrom_inner inner, skipBlanks_append behind, List.nil_append,
      skipBlanks_cons (c := colon) rfl]

end Steps

/-! ## Values of any depth -/

/-- What must not come first, as it would close the array or object around. -/
def Shape.closing : Shape → UInt8
  | .value => closeBracket
  | .entries frame _ => frame.closing

theorem IsJson.starts {shape : Shape} {text : Bytes} (h : IsJson shape text) :
    ∃ b c more, IsBlanks b ∧ text = b ++ c :: more ∧ isBlank c = false ∧ c ≠ shape.closing := by
  have opens (frame : Frame) :
      isBlank frame.opening = false ∧ frame.opening ≠ Shape.value.closing := by
    cases frame <;> decide
  have leads_on {frame : Frame} {name lead value more : Bytes} (leads : Leads name frame lead)
      (starts : ∃ b c more, IsBlanks b ∧ value = b ++ c :: more ∧ isBlank c = false ∧
        c ≠ closeBracket) :
      ∃ b c rest, IsBlanks b ∧ lead ++ (value ++ more) = b ++ c :: rest ∧ isBlank c = false ∧
        c ≠ frame.closing := by
    cases leads with
    | element =>
      obtain ⟨b, c, later, before, rfl, visible, other⟩ := starts
      exact ⟨b, c, later ++ more, before, by simp, visible, other⟩
    | @member a b before inner behind =>
      refine ⟨a, quote, name ++ quote :: (b ++ [colon]) ++ (value ++ more), before, ?_, rfl, ?_⟩
      · rw [List.append_assoc, List.cons_append]
      · change quote ≠ closeBrace
        decide
  induction h with
  | @scalar b v before h =>
    obtain ⟨c, more, rfl, visible, -, -, other, -⟩ := h.first
    exact ⟨b, c, more, before, rfl, visible, other⟩
  | empty frame before => exact ⟨_, frame.opening, _, before, rfl, opens frame⟩
  | @nested frame es b inside before => exact ⟨b, frame.opening, _, before, rfl, opens frame⟩
  | last leads h behind ih => exact leads_on leads ih
  | next leads h behind more ih => exact leads_on leads ih

/-- So many steps, of which there is enough fuel for all, lead past this piece of JSON. -/
def Shape.Passed : Shape → Bytes → Prop
  | .value, v => ∃ steps ≤ 2 * v.length, ∀ fuel stack rest, EndsNumber rest →
    skipFrom (fuel + steps) stack .value (v ++ rest) = skipFrom fuel stack .after rest
  | .entries frame _, inside => ∃ steps ≤ 2 * inside.length + 1, ∀ fuel stack rest,
    ∃ next, skipToValue (inside ++ frame.closing :: rest) frame = .ok next ∧
      skipFrom (fuel + steps) (frame :: stack) .value next = skipFrom fuel stack .after rest

theorem IsJson.passed {shape : Shape} {text : Bytes} (h : IsJson shape text) :
    shape.Passed text := by
  induction h with
  | @scalar b v before h =>
    refine ⟨1, ?_, fun fuel stack rest ends => skipFrom_scalar before h ends⟩
    obtain ⟨c, more, rfl, -⟩ := h.first
    simp only [List.length_append, List.length_cons]
    omega
  | @empty b inside frame before blank =>
    refine ⟨2, ?_, fun fuel stack rest _ => ?_⟩
    · simp only [List.length_append, List.length_cons]
      omega
    · rw [List.append_assoc, List.cons_append, List.append_assoc, List.singleton_append,
        ← Nat.add_assoc fuel 1 1, skipFrom_open before, skipFrom_empty blank]
  | @nested frame es b inside before h ih =>
    obtain ⟨steps, few, passed⟩ := ih
    refine ⟨steps + 2, ?_, fun fuel stack rest _ => ?_⟩
    · simp only [List.length_append, List.length_cons]
      omega
    · obtain ⟨c, d, more, blanks, rfl, visible, other⟩ := h.starts
      obtain ⟨next, enter, after⟩ := passed fuel stack rest
      rw [List.append_assoc, List.cons_append] at enter
      rw [List.append_assoc, List.cons_append, List.append_assoc, List.singleton_append,
        ← Nat.add_assoc fuel (steps + 1) 1, skipFrom_open before, ← Nat.add_assoc fuel steps 1,
        List.append_assoc, List.cons_append, skipFrom_opened blanks visible other enter, after]
  | @last frame e lead b leads h behind ih =>
    obtain ⟨steps, few, passed⟩ := ih
    refine ⟨steps + 1, ?_, fun fuel stack rest =>
      ⟨e.value ++ (b ++ frame.closing :: rest), ?_, ?_⟩⟩
    · simp only [List.length_append]
      omega
    · rw [List.append_assoc, List.append_assoc]
      exact leads.enter _
    · have ends := endsNumber_blanks behind (endsNumber_closing frame rest)
      rw [Nat.add_comm steps 1, ← Nat.add_assoc fuel 1 steps, passed _ _ _ ends,
        skipFrom_close behind]
  | @next frame e es lead b later leads h behind more ih ih' =>
    obtain ⟨steps, few, passed⟩ := ih
    obtain ⟨steps', few', passed'⟩ := ih'
    refine ⟨steps' + 1 + steps, ?_, fun fuel stack rest =>
      ⟨e.value ++ (b ++ comma :: (later ++ frame.closing :: rest)), ?_, ?_⟩⟩
    · simp only [List.length_append, List.length_cons]
      omega
    · rw [List.append_assoc, List.append_assoc, List.append_assoc, List.cons_append]
      exact leads.enter _
    · obtain ⟨next, enter, after⟩ := passed' fuel stack rest
      have ends := endsNumber_blanks behind
        (endsNumber_comma (later ++ frame.closing :: rest))
      rw [← Nat.add_assoc fuel (steps' + 1) steps, passed _ _ _ ends, ← Nat.add_assoc fuel steps' 1,
        skipFrom_comma behind enter, after]

/-- A value is passed over, and no more than it. -/
theorem IsJson.isSkipped {v : Bytes} (h : IsValue v) : IsSkipped v := by
  obtain ⟨steps, few, passed⟩ := h.passed
  intro rest ends
  obtain ⟨fuel, enough⟩ : ∃ fuel, 2 * (v ++ rest).length + 1 = fuel + steps := by
    refine ⟨2 * (v ++ rest).length + 1 - steps, ?_⟩
    rw [List.length_append]
    omega
  rw [skipValue, enough, passed fuel [] rest ends]
  cases fuel <;> rfl

end Agenda.Json
