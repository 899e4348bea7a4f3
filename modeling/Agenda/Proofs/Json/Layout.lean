import Mathlib.Data.List.Count
import Agenda.Proofs.Json.Members

/-! Reading an object however it is laid out: with blanks anywhere, its names and texts in any
spelling, its members in any order and among others. A record is read from it only if each of its
fields comes once. -/
namespace Agenda.Json

/-! ## Readers that stay within a value -/

/-- A value by its first byte. -/
inductive IsValue.Kind : Bytes → Prop
  | text {b k : Bytes} (before : IsBlanks b) (inner : IsInner k) : Kind (b ++ quoted k)
  | number {b v : Bytes} (before : IsBlanks b) (h : IsNumber v) : Kind (b ++ v)
  | other {b more : Bytes} {c : UInt8} (before : IsBlanks b) (visible : isBlank c = false)
    (no_text : c ≠ quote) (no_number : ¬ (c = 0x2D ∨ (digit? c).isSome)) : Kind (b ++ c :: more)

theorem IsValue.kind {v : Bytes} (h : IsValue v) : Kind v := by
  have opens (frame : Frame) : isBlank frame.opening = false ∧ frame.opening ≠ quote ∧
      ¬ (frame.opening = 0x2D ∨ (digit? frame.opening).isSome) := by
    cases frame <;> decide
  cases h with
  | scalar before h =>
    cases h with
    | null => exact .other (c := 0x6E) before rfl (by decide) (by decide)
    | yes => exact .other (c := 0x74) before rfl (by decide) (by decide)
    | no => exact .other (c := 0x66) before rfl (by decide) (by decide)
    | text inner => exact .text before inner
    | number h => exact .number before h
  | empty frame before =>
    obtain ⟨visible, no_text, no_number⟩ := opens frame
    exact .other before visible no_text no_number
  | @nested frame _ _ _ before =>
    obtain ⟨visible, no_text, no_number⟩ := opens frame
    exact .other before visible no_text no_number

/-- Of a value, if anything is read, all is read, and no byte after it. -/
def Codec.Measured {α : Type} (codec : Codec α) : Prop :=
  ∀ {v rest after : Bytes} {x : α}, IsValue v → EndsNumber rest →
    codec.read (v ++ rest) = .ok (x, after) → after = rest

theorem Codec.text_measured : Codec.text.Measured := by
  intro v rest after s value ends read
  cases value.kind with
  | @text b k before inner =>
    have string : readString (k ++ quote :: rest) = .ok (s, after) := by
      rw [← read]
      simp only [text, readText, quoted, List.append_assoc, List.cons_append,
        skipBlanks_append before, skipBlanks_cons (c := quote) rfl, if_true, List.nil_append]
    exact (spelling_of_readString inner string).2
  | number before h =>
    obtain ⟨c, more, rfl, starts⟩ := h.head
    have visible := visible_of_starts starts
    have no_text : c ≠ quote := ne_of_starts starts (by decide) rfl
    simp only [text, readText, List.append_assoc, List.cons_append, skipBlanks_append before,
      skipBlanks_cons visible, no_text, if_false, reduceCtorEq] at read
  | other before visible no_text =>
    simp only [text, readText, List.append_assoc, List.cons_append, skipBlanks_append before,
      skipBlanks_cons visible, no_text, if_false, reduceCtorEq] at read

theorem Codec.timestamp_measured : Codec.timestamp.Measured := by
  intro v rest after t value ends read
  cases value.kind with
  | text before inner =>
    have no_number : ¬ (quote = 0x2D ∨ (digit? quote).isSome) := by decide
    simp only [timestamp, readTimestamp, quoted, List.append_assoc, List.cons_append,
      skipBlanks_append before, skipBlanks_cons (c := quote) rfl, no_number, if_false,
      reduceCtorEq] at read
  | @number b v before h =>
    have number {x : Number} {later : Bytes} (found : readNumber (v ++ rest) = .ok (x, later)) :
        later = rest := h.readNumber ends found
    obtain ⟨c, more, rfl, starts⟩ := h.head
    have visible := visible_of_starts starts
    simp only [timestamp, readTimestamp, List.append_assoc, List.cons_append,
      skipBlanks_append before, skipBlanks_cons visible, starts, if_true] at read number
    split at read
    · cases read
    · cases read
    · rename_i found
      split at read
      · cases read
        exact number found
      · cases read
  | other before visible _ no_number =>
    simp only [timestamp, readTimestamp, List.append_assoc, List.cons_append,
      skipBlanks_append before, skipBlanks_cons visible, no_number, if_false, reduceCtorEq] at read

/-! ## Fields that were held -/

namespace Fields

variable {ρ σ : Type}

def Measured : {ρ σ : Type} → Fields ρ σ → Prop
  | _, _, .done => True
  | _, _, .field _ codec _ more => codec.Measured ∧ more.Measured

/-- A field under this key must come. -/
def Requires (key : String) : {ρ σ : Type} → Fields ρ σ → Prop
  | _, _, .done => False
  | _, _, .field k _ fallback more => if k = key then fallback.isNone = true else more.Requires key

/-- How many values under this key have been read, as far as they are kept. -/
def held (key : String) : {ρ σ : Type} → Fields ρ σ → σ → Nat
  | _, _, .done, () => 0
  | _, _, .field k _ _ more, (slot, slots) =>
    if k = key then slot.toList.length else more.held key slots

theorem held_vacant (key : String) (fs : Fields ρ σ) : fs.held key fs.vacant = 0 := by
  induction fs with
  | done => rfl
  | field k codec fallback more ih =>
    simp only [held, vacant, ih, Option.toList_none, List.length_nil, ite_self]

theorem held_collect {key : String} {fs : Fields ρ σ} (required : fs.Requires key) {slots : σ}
    {xs : ρ} (collected : fs.collect slots = .ok xs) : fs.held key slots = 1 := by
  induction fs with
  | done => cases required
  | field k codec fallback more ih =>
    obtain ⟨slot, slots⟩ := slots
    simp only [Requires] at required
    simp only [collect] at collected
    simp only [held]
    by_cases own : k = key
    · rw [if_pos own] at required ⊢
      rw [Option.isNone_iff_eq_none.mp required] at collected
      cases slot with
      | none => cases collected
      | some x => rfl
    · rw [if_neg own] at required ⊢
      cases value : slot <|> fallback with
      | none =>
        rw [value] at collected
        cases collected
      | some x =>
        rw [value] at collected
        cases later : more.collect slots with
        | error e =>
          simp only [later, reduceCtorEq] at collected
        | ok xs => exact ih required later

/-- What it takes to read a member: its value is the first one of its own field, or it is one of
the later fields. -/
theorem readMember_field {α : Type} {k : String} {codec : Codec α} {fallback slot : Option α}
    {more : Fields ρ σ} {name : String} {input after : Bytes} {slots : σ} {slots' : Option α × σ}
    (read : (field k codec fallback more).readMember name input (slot, slots) =
      .ok (slots', after)) :
    (name = k ∧ slot = none ∧ ∃ value x, afterKey input = .ok value ∧
        codec.read value = .ok (x, after) ∧ slots' = (some x, slots)) ∨
      name ≠ k ∧ ∃ later, more.readMember name input slots = .ok (later, after) ∧
        slots' = (slot, later) := by
  simp only [readMember] at read
  by_cases own : name = k
  · rw [if_pos own] at read
    cases slot with
    | some x => cases read
    | none =>
      cases colon : afterKey input with
      | error e => simp only [colon, reduceCtorEq] at read
      | ok value =>
        cases found : codec.read value with
        | error e => simp only [colon, found, reduceCtorEq] at read
        | ok r =>
          simp only [colon, found, Except.ok.injEq, Prod.mk.injEq] at read
          obtain ⟨rfl, rfl⟩ := read
          exact .inl ⟨own, rfl, value, r.1, rfl, found, rfl⟩
  · rw [if_neg own] at read
    cases found : more.readMember name input slots with
    | error e => simp only [found, reduceCtorEq] at read
    | ok r =>
      simp only [found, Except.ok.injEq, Prod.mk.injEq] at read
      obtain ⟨rfl, rfl⟩ := read
      exact .inr ⟨own, r.1, rfl, rfl⟩

/-- A member adds to what is held under its key, and to nothing else. -/
theorem held_readMember {key : String} {fs : Fields ρ σ} (required : fs.Requires key)
    {name : String} {input after : Bytes} {slots slots' : σ}
    (read : fs.readMember name input slots = .ok (slots', after)) :
    fs.held key slots' = fs.held key slots + if name = key then 1 else 0 := by
  induction fs with
  | done => cases required
  | field k codec fallback more ih =>
    obtain ⟨slot, slots⟩ := slots
    simp only [Requires] at required
    rcases readMember_field read with ⟨rfl, rfl, value, x, -, -, rfl⟩ | ⟨other, later, member, rfl⟩
    · by_cases own : name = key
      · simp only [held, own, if_true]
        rfl
      · simp only [held, own, if_false, Nat.add_zero]
    · by_cases own : k = key
      · subst own
        simp only [held, other, if_true, if_false, Nat.add_zero]
      · rw [if_neg own] at required
        simp only [held, own, if_false, ih required member]

/-- A member is read to the end of its value. -/
theorem readMember_measured {fs : Fields ρ σ} (measured : fs.Measured) {name : String}
    {v rest after : Bytes} {slots slots' : σ} (value : IsValue v) (ends : EndsNumber rest)
    (read : fs.readMember name (colon :: (v ++ rest)) slots = .ok (slots', after)) :
    after = rest := by
  induction fs with
  | done =>
    have passed := IsJson.isSkipped value rest ends
    simp only [readMember, afterKey_colon, passed, Except.ok.injEq, Prod.mk.injEq] at read
    exact read.2.symm
  | field k codec fallback more ih =>
    obtain ⟨slot, slots⟩ := slots
    rcases readMember_field read with ⟨-, -, w, x, colon, found, -⟩ | ⟨-, later, member, -⟩
    · rw [afterKey_colon, Except.ok.injEq] at colon
      subst colon
      exact measured.1 value ends found
    · exact ih measured.2 member

end Fields

/-! ## Objects that are read -/

section Objects

variable {ρ σ : Type} {fs : Fields ρ σ} {es : List Entry}

theorem Leads.inner {name lead : Bytes} (h : Leads name .object lead) : IsInner name := by
  cases h with
  | member before inner behind => exact inner

/-- Members that were read have names, and each is held under its own. -/
theorem Laid.held_readMembers {first : Bool} {inside : Bytes} (h : Laid first es inside)
    (values : ∀ e ∈ es, IsValue e.value) (measured : fs.Measured) {fuel : Nat}
    {rest after : Bytes} {slots slots' : σ}
    (read : fs.readMembers fuel first slots (inside ++ closeBrace :: rest) =
      .ok (slots', after)) :
    ∃ names, List.Forall₂ Entry.IsNamed es names ∧
      ∀ key, fs.Requires key → fs.held key slots' = fs.held key slots + names.count key := by
  induction h generalizing fuel slots with
  | nil blank =>
    cases fuel with
    | zero => cases read
    | succ fuel =>
      simp only [Fields.readMembers, Fields.nextKey_close _ blank, Except.ok.injEq,
        Prod.mk.injEq] at read
      obtain ⟨rfl, -⟩ := read
      exact ⟨[], .nil, fun key _ => rfl⟩
  | @cons first e es separator lead inside separated leads more ih =>
    cases fuel with
    | zero => cases read
    | succ fuel =>
      obtain ⟨b, behind, next⟩ := Fields.nextKey_separated separated leads
      rw [List.append_assoc, List.append_assoc, List.append_assoc, Fields.readMembers, next] at read
      simp only at read
      cases name : readString (e.name ++ quote :: (b ++ colon :: (e.value ++
          (inside ++ closeBrace :: rest)))) with
      | error e => simp only [name, reduceCtorEq] at read
      | ok found =>
        obtain ⟨s, later⟩ := found
        obtain ⟨named, rfl⟩ := spelling_of_readString leads.inner name
        simp only [name, fs.readMember_blanks behind] at read
        cases member : fs.readMember s (colon :: (e.value ++ (inside ++ closeBrace :: rest))) slots
          with
        | error e => simp only [member, reduceCtorEq] at read
        | ok told =>
          obtain ⟨slots'', later⟩ := told
          obtain rfl := Fields.readMember_measured measured (values e (.head _))
            (more.endsNumber rest) member
          simp only [member] at read
          obtain ⟨names, all, held⟩ := ih (fun e member => values e (.tail _ member)) read
          refine ⟨s :: names, .cons named all, fun key required => ?_⟩
          rw [held key required, Fields.held_readMember required member, List.count_cons]
          simp only [beq_iff_eq]
          omega

/-- Of an object that is read each member has a name, and each field that must come has come
once. -/
theorem Codec.once_of_decode {α : Type} {text : Bytes} (object : IsObject es text)
    (measured : fs.Measured) {name : String} {make : ρ → α} {parts : α → ρ} {x : α}
    (decoded : (Codec.record name fs make parts).decode text = .ok x) :
    ∃ names, List.Forall₂ Entry.IsNamed es names ∧
      ∀ key, fs.Requires key → names.count key = 1 := by
  obtain ⟨a, inside, b, before, behind, rfl, laid, values⟩ := object.laid
  simp only [decode, record, Fields.read, skipBlanks_append before,
    skipBlanks_cons (c := openBrace) rfl, if_true] at decoded
  cases members : fs.readMembers ((inside ++ closeBrace :: b).length + 1) true fs.vacant
      (inside ++ closeBrace :: b) with
  | error e => simp only [members, reduceCtorEq] at decoded
  | ok read =>
    obtain ⟨slots, after⟩ := read
    cases collected : fs.collect slots with
    | error e => simp only [members, collected, reduceCtorEq] at decoded
    | ok xs =>
      obtain ⟨names, all, held⟩ := laid.held_readMembers values measured members
      refine ⟨names, all, fun key required => ?_⟩
      have count := held key required
      rw [Fields.held_collect required collected, Fields.held_vacant, Nat.zero_add] at count
      exact count.symm

end Objects

/-! ## Members by their names -/

section Members

variable {es : List Entry} {names : List String} {key : String}

theorem exists_of_mem_right {α β : Type} {r : α → β → Prop} {as : List α} {bs : List β}
    (related : List.Forall₂ r as bs) {b : β} (member : b ∈ bs) : ∃ a ∈ as, r a b := by
  induction related with
  | nil => cases member
  | @cons a b as bs here _ ih =>
    rcases List.mem_cons.mp member with rfl | later
    · exact ⟨a, .head _, here⟩
    · obtain ⟨a, member, here⟩ := ih later
      exact ⟨a, .tail _ member, here⟩

theorem exists_of_mem_left {α β : Type} {r : α → β → Prop} {as : List α} {bs : List β}
    (related : List.Forall₂ r as bs) {a : α} (member : a ∈ as) : ∃ b ∈ bs, r a b := by
  have flipped : List.Forall₂ (fun b a => r a b) bs as := related.flip
  exact exists_of_mem_right flipped member

/-- Members that have names denote something. -/
theorem exists_denoted (named : ∀ e ∈ es, ∃ s, e.IsNamed s) :
    ∃ ms, List.Forall₂ Entry.Denotes es ms := by
  induction es with
  | nil => exact ⟨[], .nil⟩
  | cons e es ih =>
    obtain ⟨s, here⟩ := named e (.head _)
    obtain ⟨ms, later⟩ := ih fun e member => named e (.tail _ member)
    exact ⟨(s, e.value) :: ms, .cons ⟨here, rfl⟩ later⟩

theorem length_le_count (named : List.Forall₂ Entry.IsNamed es names) {some_of : List Entry}
    (sublist : some_of.Sublist es) (own : ∀ e ∈ some_of, e.IsNamed key) :
    some_of.length ≤ names.count key := by
  induction sublist generalizing names with
  | slnil => exact Nat.zero_le _
  | cons e sublist ih =>
    cases named with
    | cons _ named => exact Nat.le_trans (ih named own) List.count_le_count_cons
  | @cons_cons later es e sublist ih =>
    cases named with
    | cons here named =>
      obtain rfl := here.unique (own e (.head _))
      rw [List.length_cons, List.count_cons_self]
      exact Nat.succ_le_succ (ih named fun e member => own e (.tail _ member))

/-- No member has this name. -/
def LeftOut (key : String) (es : List Entry) : Prop := ∀ e ∈ es, ¬ e.IsNamed key

/-- At least two members have this name. -/
def Repeated (key : String) (es : List Entry) : Prop :=
  ∃ a b, [a, b].Sublist es ∧ a.IsNamed key ∧ b.IsNamed key

/-- A member that must come cannot be left out or repeated, whatever the others are, and a member
whose name is no text is refused even if nobody asks for it. -/
theorem Codec.decode_defective {α ρ σ : Type} {fs : Fields ρ σ} {text : Bytes}
    (object : IsObject es text) (measured : fs.Measured)
    (defect : (∃ e ∈ es, ∀ s, ¬ e.IsNamed s) ∨
      ∃ key, fs.Requires key ∧ (LeftOut key es ∨ Repeated key es))
    (name : String) (make : ρ → α) (parts : α → ρ) :
    ∃ e, (Codec.record name fs make parts).decode text = .error e := by
  cases decoded : (Codec.record name fs make parts).decode text with
  | error e => exact ⟨e, rfl⟩
  | ok x =>
    obtain ⟨names, named, once⟩ := once_of_decode object measured decoded
    rcases defect with ⟨e, member, none⟩ | ⟨key, required, defect⟩
    · obtain ⟨s, -, own⟩ := exists_of_mem_left named member
      exact absurd own (none s)
    have one := once key required
    rcases defect with left_out | ⟨a, b, both, first, second⟩
    · have member : key ∈ names := List.count_pos_iff.mp (one ▸ Nat.one_pos)
      obtain ⟨e, listed, own⟩ := exists_of_mem_right named member
      exact absurd own (left_out e listed)
    · have own : ∀ e ∈ [a, b], e.IsNamed key := by
        rintro e (_ | ⟨_, _ | ⟨_, ⟨⟩⟩⟩)
        · exact first
        · exact second
      have two := length_le_count named both own
      rw [one] at two
      exact absurd two (Nat.not_succ_le_self 1)

end Members

/-! ## Values of fields -/

/-- The member has this key and says this text, in whatever spelling and with blanks before it. -/
structure Entry.IsText (key s : String) (e : Entry) : Prop where
  named : e.IsNamed key
  spelled : ∃ b k, e.value = b ++ quoted k ∧ IsBlanks b ∧ Spelling k (Text.bytes s)

/-- The member has this key and says this integer in plain decimals, with blanks before it. -/
structure Entry.IsInteger (key : String) (n : Int) (e : Entry) : Prop where
  named : e.IsNamed key
  plain : ∃ b, e.value = b ++ Text.bytes (toString n) ∧ IsBlanks b

theorem Entry.IsText.spells {key s : String} {e : Entry} (h : e.IsText key s) :
    Codec.text.Spells e.value s := by
  obtain ⟨b, k, value, before, spelling⟩ := h.spelled
  intro rest ends
  rw [value]
  simp only [Codec.text, readText, quoted, List.append_assoc, List.cons_append, List.nil_append,
    skipBlanks_append before, skipBlanks_cons (c := quote) rfl, if_true,
    readString_spelling spelling]

theorem Entry.IsInteger.spells {key : String} {t : Timestamp} {e : Entry}
    (h : e.IsInteger key t.seconds) : Codec.timestamp.Spells e.value t := by
  obtain ⟨b, value, before⟩ := h.plain
  intro rest ends
  have read := Codec.timestamp_faithful t rest ends
  rw [value]
  simp only [Codec.encode, Codec.timestamp, readTimestamp] at read
  simp only [Codec.timestamp, readTimestamp, List.append_assoc, skipBlanks_append before, read]

end Agenda.Json
