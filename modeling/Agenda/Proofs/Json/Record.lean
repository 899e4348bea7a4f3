import Agenda.Json.Record
import Agenda.Proofs.Json.Integer
import Agenda.Proofs.Json.Skipping
import Agenda.Proofs.Json.Text

/-! Reading a record that was written. -/
namespace Agenda.Json

/-- What was written is read back, and no byte after it. -/
def Codec.Faithful {α : Type} (codec : Codec α) : Prop :=
  ∀ x rest, EndsNumber rest → codec.read (codec.encode x ++ rest) = .ok (x, rest)

theorem Codec.text_faithful : Codec.text.Faithful := by
  intro s rest _
  simp only [text, encode, readText_writeText]

theorem Codec.timestamp_faithful : Codec.timestamp.Faithful := by
  intro t rest ends
  simp only [timestamp, encode, readTimestamp_toString t ends]

theorem Codec.decode_encode {α : Type} {codec : Codec α} (faithful : codec.Faithful) (x : α) :
    codec.decode (codec.encode x) = .ok x := by
  have read := faithful x [] endsNumber_nil
  rw [List.append_nil] at read
  simp only [decode, read]
  rfl

/-- Different values are written differently. -/
theorem Codec.write_injective {α : Type} {codec : Codec α} (faithful : codec.Faithful) {x y : α}
    (same : codec.write x = codec.write y) : x = y := by
  have read := decode_encode faithful x
  rw [encode, same, ← encode, decode_encode faithful y] at read
  exact (Except.ok.inj read).symm

namespace Fields

/-- The members of the object, each as its key and the text of its value. -/
def texts : {ρ σ : Type} → Fields ρ σ → ρ → List (String × Bytes)
  | _, _, .done, () => []
  | _, _, .field key codec _ more, (x, xs) => (key, codec.encode x) :: more.texts xs

def keys : {ρ σ : Type} → Fields ρ σ → List String
  | _, _, .done => []
  | _, _, .field key _ _ more => key :: more.keys

/-- All values read. -/
def filled : {ρ σ : Type} → Fields ρ σ → ρ → σ
  | _, _, .done, () => ()
  | _, _, .field _ _ _ more, (x, xs) => (some x, more.filled xs)

def Faithful : {ρ σ : Type} → Fields ρ σ → Prop
  | _, _, .done => True
  | _, _, .field _ codec _ more => codec.Faithful ∧ more.Faithful

variable {α ρ σ : Type}

theorem keys_texts (fs : Fields ρ σ) (xs : ρ) : (fs.texts xs).map Prod.fst = fs.keys := by
  induction fs with
  | done => rfl
  | field key codec fallback more ih => exact congrArg (key :: ·) (ih xs.2)

theorem collect_filled (fs : Fields ρ σ) (xs : ρ) : fs.collect (fs.filled xs) = .ok xs := by
  induction fs with
  | done => rfl
  | field key codec fallback more ih =>
    obtain ⟨x, xs⟩ := xs
    simp only [collect, filled, ih xs]
    rfl

/-- Reading these members one after the other leads from some values to others. -/
inductive Reads (fs : Fields ρ σ) : σ → List (String × Bytes) → σ → Prop
  | nil {slots} : Reads fs slots [] slots
  | cons {slots slots' slots'' m ms} :
      (∀ rest, EndsNumber rest →
        fs.readMember m.1 (colon :: m.2 ++ rest) slots = .ok (slots', rest)) →
      Reads fs slots' ms slots'' → Reads fs slots (m :: ms) slots''

/-- Members under other keys pass a field by. -/
theorem Reads.beside {more : Fields ρ σ} {slots slots' : σ} {ms : List (String × Bytes)}
    (h : more.Reads slots ms slots') {key : String} (other : key ∉ ms.map Prod.fst)
    (codec : Codec α) (fallback slot : Option α) :
    (Fields.field key codec fallback more).Reads (slot, slots) ms (slot, slots') := by
  induction h with
  | nil => exact .nil
  | cons read _ ih =>
    rw [List.map_cons, List.mem_cons, not_or] at other
    refine .cons (fun rest ends => ?_) (ih other.2)
    simp only [readMember, Ne.symm other.1, if_false, read rest ends]

theorem reads_texts {fs : Fields ρ σ} (faithful : fs.Faithful) (distinct : fs.keys.Nodup) (xs : ρ) :
    fs.Reads fs.vacant (fs.texts xs) (fs.filled xs) := by
  induction fs with
  | done => exact .nil
  | field key codec fallback more ih =>
    obtain ⟨x, xs⟩ := xs
    obtain ⟨new, distinct⟩ := List.nodup_cons.mp distinct
    have later := ih faithful.2 distinct xs
    rw [← more.keys_texts xs] at new
    refine .cons (fun rest ends => ?_) (later.beside new codec fallback (some x))
    simp only [readMember, vacant, afterKey, List.cons_append, skipBlanks_cons (c := colon) rfl,
      if_true, faithful.1 x rest ends]

end Fields

/-! ## Objects -/

section Layout

open Fields

variable {ρ σ : Type} {first : Bool} {e : Entry} {es : List Entry} {b separator lead inside : Bytes}

theorem Fields.nextKey_close (first : Bool) (blank : IsBlanks b) (rest : Bytes) :
    nextKey first (b ++ closeBrace :: rest) = .ok (false, rest) := by
  simp only [nextKey, skipBlanks_append blank, skipBlanks_cons (c := closeBrace) rfl, if_true]

theorem Fields.nextKey_separated (separated : Separator first separator)
    (leads : Leads e.name .object lead) : ∃ b, IsBlanks b ∧ ∀ rest,
      nextKey first (separator ++ (lead ++ rest)) =
        .ok (true, e.name ++ quote :: (b ++ colon :: rest)) := by
  cases leads with
  | @member a b before inner behind =>
    refine ⟨b, behind, fun rest => ?_⟩
    have not_brace : quote ≠ closeBrace := by decide
    have comma_not_brace : comma ≠ closeBrace := by decide
    have key (more : Bytes) : skipBlanks (a ++ quote :: more) = quote :: more := by
      rw [skipBlanks_append before, skipBlanks_cons rfl]
    cases separated with
    | none =>
      simp only [nextKey, List.nil_append, List.append_assoc, List.cons_append, key, not_brace,
        if_true, if_false]
    | comma blank =>
      simp only [nextKey, List.nil_append, List.append_assoc, List.cons_append,
        skipBlanks_append blank, skipBlanks_cons (c := comma) rfl, comma_not_brace, key, if_true,
        if_false, Bool.false_eq_true]

theorem Laid.length_le (h : Laid first es inside) : es.length ≤ inside.length := by
  induction h with
  | nil => exact Nat.zero_le _
  | cons separated leads more ih =>
    cases leads
    simp only [List.length_append, List.length_cons] at ih ⊢
    omega

/-- What follows the value of a member. -/
theorem Laid.endsNumber (h : Laid false es inside) (rest : Bytes) :
    EndsNumber (inside ++ closeBrace :: rest) := by
  cases h with
  | nil blank => exact endsNumber_blanks blank (endsNumber_closing .object rest)
  | cons separated leads more =>
    cases separated with
    | comma behind =>
      rw [List.append_assoc, List.append_assoc]
      exact endsNumber_blanks behind (endsNumber_comma _)

theorem Fields.readMember_blanks (fs : Fields ρ σ) (blanks : IsBlanks b) (key : String)
    (input : Bytes) (slots : σ) :
    fs.readMember key (b ++ input) slots = fs.readMember key input slots := by
  have colon : afterKey (b ++ input) = afterKey input := by
    simp only [afterKey, skipBlanks_append blanks]
  induction fs with
  | done => simp only [readMember, colon]
  | field key' codec fallback more ih => simp only [readMember, colon, ih]

/-- Members are read in whatever layout. -/
theorem Laid.readMembers {fs : Fields ρ σ} (h : Laid first es inside) {ms : List (String × Bytes)}
    (denotes : List.Forall₂ Entry.Denotes es ms) {slots slots' : σ}
    (reads : fs.Reads slots ms slots') {fuel : Nat} (enough : es.length < fuel) (rest : Bytes) :
    fs.readMembers fuel first slots (inside ++ closeBrace :: rest) = .ok (slots', rest) := by
  obtain ⟨fuel, rfl⟩ : ∃ more, fuel = more + 1 := ⟨fuel - 1, by omega⟩
  induction h generalizing fuel ms slots with
  | nil blank =>
    cases denotes
    cases reads
    simp only [Fields.readMembers, nextKey_close _ blank]
  | @cons first e es separator lead inside separated leads more ih =>
    cases denotes with
    | @cons _ m _ ms denoted denotes =>
      obtain ⟨named, value⟩ := denoted
      cases reads with
      | cons read reads =>
        obtain ⟨b, behind, next⟩ := nextKey_separated separated leads
        have member := read _ (more.endsNumber rest)
        obtain ⟨fuel, rfl⟩ : ∃ left, fuel = left + 1 :=
          ⟨fuel - 1, by rw [List.length_cons] at enough; omega⟩
        rw [List.cons_append, ← value, ← fs.readMember_blanks behind] at member
        rw [List.append_assoc, List.append_assoc, List.append_assoc, Fields.readMembers, next]
        simp only [readString_spelling named, member]
        exact ih denotes reads fuel (Nat.lt_of_succ_lt_succ enough)

theorem Laid.read {fs : Fields ρ σ} (h : Laid true es inside) {ms : List (String × Bytes)}
    (denotes : List.Forall₂ Entry.Denotes es ms) {slots : σ} {xs : ρ}
    (reads : fs.Reads fs.vacant ms slots)
    (collected : fs.collect slots = .ok xs) (before : IsBlanks b) (name : String) (rest : Bytes) :
    fs.read name (b ++ openBrace :: (inside ++ closeBrace :: rest)) = .ok (xs, rest) := by
  have enough : es.length < (inside ++ closeBrace :: rest).length + 1 := by
    have few := h.length_le
    rw [List.length_append]
    omega
  simp only [Fields.read, skipBlanks_append before, skipBlanks_cons (c := openBrace) rfl, if_true,
    h.readMembers denotes reads enough rest, collected]

end Layout

/-! ## Objects that are written -/

namespace Fields

variable {α ρ σ : Type}

/-- What comes after the quote that opens a member's key. -/
def keyed (m : String × Bytes) : Bytes := inner m.1 ++ quote :: colon :: m.2

/-- The members after the first. -/
def later (ms : List (String × Bytes)) : Bytes := ms.flatMap fun m => comma :: quote :: keyed m

def written (m : String × Bytes) : Entry := ⟨inner m.1, m.2⟩

theorem denotes_written (ms : List (String × Bytes)) :
    List.Forall₂ Entry.Denotes (ms.map written) ms := by
  induction ms with
  | nil => exact .nil
  | cons m ms ih => exact .cons ⟨spelling_inner m.1, rfl⟩ ih

theorem leads_inner (s : String) :
    Leads (inner s) .object (quote :: (inner s ++ [quote, colon])) :=
  .member (a := []) (b := []) (by decide) (spelling_inner s).isInner (by decide)

theorem laid_later (ms : List (String × Bytes)) : Laid false (ms.map written) (later ms) := by
  induction ms with
  | nil => exact .nil (by decide)
  | cons m ms ih =>
    have text := Laid.cons (e := written m) (.comma (b := []) (by decide)) (leads_inner m.1) ih
    have same : later (m :: ms) = comma :: quote :: keyed m ++ later ms := List.flatMap_cons
    rw [same, keyed, List.map_cons]
    simpa only [List.nil_append, List.append_assoc, List.cons_append, written] using text

theorem laid_written (m : String × Bytes) (ms : List (String × Bytes)) :
    Laid true ((m :: ms).map written) (quote :: keyed m ++ later ms) := by
  have text := Laid.cons (e := written m) .none (leads_inner m.1) (laid_later ms)
  rw [keyed, List.map_cons]
  simpa only [List.nil_append, List.append_assoc, List.cons_append, written] using text

/-- The bytes of texts with commas between them. -/
theorem bytes_intercalate (s : String) (ss : List String) :
    Text.bytes (",".intercalate (s :: ss)) =
      Text.bytes s ++ ss.flatMap fun s => comma :: Text.bytes s := by
  induction ss generalizing s with
  | nil => rw [String.intercalate_singleton, List.flatMap_nil, List.append_nil]
  | cons t ss ih =>
    rw [String.intercalate_cons_cons, Text.bytes_append, Text.bytes_append, ih t,
      List.append_assoc, List.flatMap_cons]
    rfl

theorem bytes_members (fs : Fields ρ σ) (xs : ρ) :
    (fs.members xs).map Text.bytes = (fs.texts xs).map fun m => quote :: keyed m := by
  induction fs with
  | done => rfl
  | field key codec fallback more ih =>
    obtain ⟨x, xs⟩ := xs
    have member : Text.bytes (writeText key ++ ":" ++ codec.write x) =
        quote :: keyed (key, codec.encode x) := by
      rw [Text.bytes_append, Text.bytes_append, bytes_writeText, List.append_assoc,
        List.append_assoc]
      rfl
    simp only [members, texts, List.map_cons, member, ih xs]

theorem bytes_write {fs : Fields ρ σ} {xs : ρ} {m : String × Bytes} {ms : List (String × Bytes)}
    (texts : fs.texts xs = m :: ms) :
    Text.bytes (fs.write xs) = openBrace :: quote :: keyed m ++ later ms ++ [closeBrace] := by
  have members := fs.bytes_members xs
  rw [texts] at members
  obtain ⟨s, ss, eq⟩ : ∃ s ss, fs.members xs = s :: ss := by
    apply List.exists_cons_of_ne_nil
    intro none
    rw [none] at members
    cases members
  rw [eq, List.map_cons, List.map_cons] at members
  injection members with first others
  have rest : (ss.flatMap fun s => comma :: Text.bytes s) = later ms := by
    rw [later, ← List.flatMap_map Text.bytes (comma :: ·), others, List.flatMap_map]
  rw [write, Text.bytes_append, Text.bytes_append, eq, bytes_intercalate, first, rest]
  rfl

/-- An object shows its first key. -/
theorem readString_write {fs : Fields ρ σ} {key : String} (first : fs.keys.head? = some key)
    (xs : ρ) : ∃ members rest, Text.bytes (fs.write xs) = openBrace :: quote :: members ∧
      readString members = .ok (key, rest) := by
  rw [← fs.keys_texts xs] at first
  cases texts : fs.texts xs with
  | nil =>
    rw [texts] at first
    cases first
  | cons m ms =>
    rw [texts] at first
    cases first
    refine ⟨keyed m ++ (later ms ++ [closeBrace]), colon :: m.2 ++ (later ms ++ [closeBrace]),
      ?_, ?_⟩
    · rw [bytes_write texts, List.append_assoc]
      rfl
    · rw [keyed, List.append_assoc]
      exact readString_inner m.1 _

/-- Objects that are written alike begin with the same key. -/
theorem first_key {ρ' σ' : Type} {fs : Fields ρ σ} {gs : Fields ρ' σ'} {xs : ρ} {ys : ρ'}
    {key key' : String} (same : fs.write xs = gs.write ys) (first : fs.keys.head? = some key)
    (first' : gs.keys.head? = some key') : key = key' := by
  obtain ⟨members, rest, written, read⟩ := readString_write first xs
  obtain ⟨members', rest', written', read'⟩ := readString_write first' ys
  rw [same, written', List.cons.injEq, List.cons.injEq] at written
  rw [written.2.2, read] at read'
  exact (Prod.mk.inj (Except.ok.inj read')).1

/-- An object is read as what its members say. -/
theorem read_object {fs : Fields ρ σ} {slots : σ} {xs : ρ} {m : String × Bytes}
    {ms : List (String × Bytes)} (reads : fs.Reads fs.vacant (m :: ms) slots)
    (collected : fs.collect slots = .ok xs) (name : String) (rest : Bytes) :
    fs.read name (openBrace :: (quote :: keyed m ++ later ms ++ closeBrace :: rest)) =
      .ok (xs, rest) :=
  (laid_written m ms).read (b := []) (denotes_written _) reads collected (by decide) name rest

/-- A record that is not empty is read back. -/
theorem read_write {fs : Fields ρ σ} (faithful : fs.Faithful) (distinct : fs.keys.Nodup)
    (some_field : fs.keys ≠ []) (name : String) (xs : ρ) (rest : Bytes) :
    fs.read name (Text.bytes (fs.write xs) ++ rest) = .ok (xs, rest) := by
  obtain ⟨m, ms, texts⟩ : ∃ m ms, fs.texts xs = m :: ms := by
    apply List.exists_cons_of_ne_nil
    intro none
    apply some_field
    rw [← fs.keys_texts xs, none, List.map_nil]
  have reads := reads_texts faithful distinct xs
  rw [texts] at reads
  have input : Text.bytes (fs.write xs) ++ rest =
      openBrace :: (quote :: keyed m ++ later ms ++ closeBrace :: rest) := by
    rw [bytes_write texts, List.append_assoc]
    rfl
  rw [input]
  exact read_object reads (fs.collect_filled xs) name rest

end Fields

theorem Codec.record_faithful {α ρ σ : Type} {name : String} {fs : Fields ρ σ} {make : ρ → α}
    {parts : α → ρ} (faithful : fs.Faithful) (distinct : fs.keys.Nodup) (some_field : fs.keys ≠ [])
    (inverse : ∀ x, make (parts x) = x) : (Codec.record name fs make parts).Faithful := by
  intro x rest _
  have read := Fields.read_write faithful distinct some_field name (parts x) rest
  simp only [record, encode, read, inverse x]

end Agenda.Json
