import Agenda.Proofs.Json.Record
import Mathlib.Data.List.Perm.Basic

/-! Reading an object whose members come in any order, among others that nobody asks for. -/
namespace Agenda.Json

/-- The bytes spell this value, whatever follows. -/
def Codec.Spells {α : Type} (codec : Codec α) (v : Bytes) (x : α) : Prop :=
  ∀ rest, EndsNumber rest → codec.read (v ++ rest) = .ok (x, rest)

theorem Codec.Faithful.spells {α : Type} {codec : Codec α} (h : codec.Faithful) (x : α) :
    codec.Spells (codec.encode x) x := h x

/-- Any text may stand where nobody asks for it. -/
theorem isSkipped_text (s : String) : IsSkipped (Codec.text.encode s) := by
  have written : Codec.text.encode s = quoted (inner s) := bytes_writeText s
  rw [written]
  exact IsJson.isSkipped (isValue_inner s)

/-! ## Members in any order -/

/-- The text of an object with these members, each as its key and the text of its value. -/
def object : List (String × Bytes) → Bytes
  | [] => [openBrace, closeBrace]
  | m :: ms => openBrace :: quote :: Fields.keyed m ++ Fields.later ms ++ [closeBrace]

namespace Fields

variable {α ρ σ : Type}

/-- What the members of an object say of the fields: each field has its value from the one member
under its key, or there is none. All other members are passed over. -/
def Gives : {ρ σ : Type} → Fields ρ σ → List (String × Bytes) → σ → Prop
  | _, _, .done, ms, () => ∀ m ∈ ms, IsSkipped m.2
  | _, _, .field key codec _ more, ms, (slot, slots) =>
    (match slot with
      | none => key ∉ ms.map (·.1)
      | some x => ∃ v, ms.filter (·.1 = key) = [(key, v)] ∧ codec.Spells v x) ∧
    more.Gives (ms.filter (·.1 ≠ key)) slots

theorem filter_others {key : String} {ms : List (String × Bytes)} (absent : key ∉ ms.map (·.1)) :
    ms.filter (·.1 ≠ key) = ms := by
  apply List.filter_eq_self.mpr
  intro m member
  rw [decide_eq_true_iff]
  rintro rfl
  exact absent (List.mem_map_of_mem member)

theorem filter_own {key : String} {ms : List (String × Bytes)} (absent : key ∉ ms.map (·.1)) :
    ms.filter (·.1 = key) = [] := by
  apply List.filter_eq_nil_iff.mpr
  intro m member
  rw [decide_eq_true_iff]
  rintro rfl
  exact absent (List.mem_map_of_mem member)

/-- One field more, whose member comes first. -/
theorem Gives.cons {more : Fields ρ σ} {ms : List (String × Bytes)} {slots : σ} {key : String}
    {codec : Codec α} {v : Bytes} {x : α} (spells : codec.Spells v x) (only : key ∉ ms.map (·.1))
    (gives : more.Gives ms slots) (fallback : Option α) :
    (Fields.field key codec fallback more).Gives ((key, v) :: ms) (some x, slots) := by
  refine ⟨⟨v, ?_, spells⟩, ?_⟩
  · rw [List.filter_cons_of_pos (by simp), filter_own only]
  · rw [List.filter_cons_of_neg (by simp), filter_others only]
    exact gives

/-- The order of the members does not count. -/
theorem Gives.perm {fs : Fields ρ σ} {ms ms' : List (String × Bytes)} {slots : σ}
    (gives : fs.Gives ms slots) (same : ms.Perm ms') : fs.Gives ms' slots := by
  induction fs generalizing ms ms' with
  | done => exact fun m member => gives m (same.mem_iff.mpr member)
  | field key codec fallback more ih =>
    obtain ⟨slot, slots⟩ := slots
    obtain ⟨own, others⟩ := gives
    refine ⟨?_, ih others (same.filter _)⟩
    cases slot with
    | none => exact fun member => own ((same.map (·.1)).mem_iff.mpr member)
    | some x =>
      obtain ⟨v, single, spells⟩ := own
      have single' := (same.filter (·.1 = key)).symm
      rw [single, List.perm_singleton] at single'
      exact ⟨v, single', spells⟩

theorem afterKey_colon (input : Bytes) : afterKey (colon :: input) = .ok input := by
  simp only [afterKey, skipBlanks_cons (c := colon) rfl, if_true]

/-- Members that no field asks for. -/
theorem reads_done {ms : List (String × Bytes)} (skipped : ∀ m ∈ ms, IsSkipped m.2) :
    Fields.done.Reads () ms () := by
  induction ms with
  | nil => exact .nil
  | cons m ms ih =>
    refine .cons (fun rest ends => ?_) (ih fun m member => skipped m (.tail _ member))
    have passed := skipped m (.head _) rest ends
    simp only [readMember, List.cons_append, afterKey_colon, passed]

/-- The one member of a field among the members of the others. -/
theorem Reads.among {more : Fields ρ σ} {slots slots' : σ} {ms : List (String × Bytes)}
    {key : String} (h : more.Reads slots (ms.filter (·.1 ≠ key)) slots') {codec : Codec α} {x : α}
    {v : Bytes} (own : ms.filter (·.1 = key) = [(key, v)]) (spells : codec.Spells v x)
    (fallback : Option α) :
    (Fields.field key codec fallback more).Reads (none, slots) ms (some x, slots') := by
  induction ms generalizing slots with
  | nil => cases own
  | cons m ms ih =>
    by_cases here : m.1 = key
    · rw [List.filter_cons_of_pos (by simpa using here)] at own
      rw [List.filter_cons_of_neg (by simpa using here)] at h
      obtain ⟨rfl, none_later⟩ := List.cons.inj own
      have other : key ∉ ms.map (·.1) := by
        intro member
        obtain ⟨m, later, same⟩ := List.mem_map.mp member
        have listed : m ∈ ms.filter (·.1 = key) :=
          List.mem_filter.mpr ⟨later, decide_eq_true same⟩
        rw [none_later] at listed
        cases listed
      rw [filter_others other] at h
      refine .cons (fun rest ends => ?_) (h.beside other codec fallback (some x))
      simp only [readMember, if_true, List.cons_append, afterKey_colon, spells rest ends]
    · rw [List.filter_cons_of_neg (by simpa using here)] at own
      rw [List.filter_cons_of_pos (by simpa using here)] at h
      cases h with
      | cons read later =>
        refine .cons (fun rest ends => ?_) (ih later own)
        simp only [readMember, here, if_false, read rest ends]

/-- Members are read for what they say, in whatever order they come. -/
theorem Gives.reads {fs : Fields ρ σ} {ms : List (String × Bytes)} {slots : σ}
    (h : fs.Gives ms slots) : fs.Reads fs.vacant ms slots := by
  induction fs generalizing ms with
  | done => exact reads_done h
  | field key codec fallback more ih =>
    obtain ⟨slot, slots⟩ := slots
    obtain ⟨own, others⟩ := h
    cases slot with
    | none =>
      rw [filter_others own] at others
      exact (ih others).beside own codec fallback none
    | some x =>
      obtain ⟨v, single, spells⟩ := own
      exact (ih others).among single spells fallback

theorem laid_object (ms : List (String × Bytes)) :
    ∃ inside, object ms = openBrace :: (inside ++ [closeBrace]) ∧
      Laid true (ms.map written) inside := by
  cases ms with
  | nil => exact ⟨[], rfl, .nil (by decide)⟩
  | cons m ms => exact ⟨_, rfl, laid_written m ms⟩

end Fields

section Decode

variable {α ρ σ : Type} {fs : Fields ρ σ} {ms : List (String × Bytes)} {slots : σ} {xs : ρ}

/-- An object whose members give all that is needed is read as what they say, however it is laid
out and in whatever order they come. -/
theorem Codec.decode_reordered {es es' : List Entry} {text : Bytes} (object : IsObject es text)
    (order : es.Perm es') (denotes : List.Forall₂ Entry.Denotes es' ms) (gives : fs.Gives ms slots)
    (collected : fs.collect slots = .ok xs) (name : String) (make : ρ → α) (parts : α → ρ) :
    (Codec.record name fs make parts).decode text = .ok (make xs) := by
  obtain ⟨a, inside, b, before, behind, rfl, laid, -⟩ := object.laid
  obtain ⟨ms', written, same⟩ := List.perm_comp_forall₂ order denotes
  have reads := (gives.perm same.symm).reads
  have blank : skipBlanks b = [] := by
    rw [← List.append_nil b, skipBlanks_append behind]
    rfl
  simp only [decode, record, laid.read written reads collected before name b, blank,
    List.isEmpty_nil, if_true]

theorem Codec.decode_object (gives : fs.Gives ms slots) (collected : fs.collect slots = .ok xs)
    (name : String) (make : ρ → α) (parts : α → ρ) :
    (Codec.record name fs make parts).decode (object ms) = .ok (make xs) := by
  obtain ⟨inside, text, laid⟩ := Fields.laid_object ms
  have read := laid.read (b := []) (Fields.denotes_written ms) gives.reads collected (by decide)
    name []
  rw [List.nil_append, ← text] at read
  simp only [decode, record, read]
  rfl

end Decode

/-- A record that is not empty is written as the object of its members. -/
theorem Codec.encode_record {α ρ σ : Type} {name : String} {fs : Fields ρ σ} {make : ρ → α}
    {parts : α → ρ} {x : α} {ms : List (String × Bytes)} (texts : fs.texts (parts x) = ms)
    (some_member : ms ≠ []) : (Codec.record name fs make parts).encode x = object ms := by
  obtain ⟨m, ms, rfl⟩ := List.exists_cons_of_ne_nil some_member
  exact Fields.bytes_write texts

end Agenda.Json
