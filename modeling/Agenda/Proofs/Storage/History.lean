import Mathlib
import Agenda.Proofs.Storage.Calls

/-! What the history of the calls tells about the events in memory. The answers that were given so
far determine what is filed under every id, and with it the answer to the next call. -/
namespace Agenda

/-! ## Changes of one id -/

/-- A call that may change what is filed under an id. -/
inductive Write
  | insert (e : Event)
  | save (e : Event)
  | delete (id : String)
deriving DecidableEq

namespace Write

def call : Write → StorageCall
  | .insert e => .insert e
  | .save e => .save e
  | .delete id => .delete id

def target : Write → String
  | .insert e | .save e => e.id
  | .delete id => id

/-- What it is told and what is filed under its id afterwards, by what was filed there before. -/
def outcome : Write → Option Event → Except StorageError Unit × Option Event
  | .insert e, none => (.ok (), some e)
  | .insert e, some d => (.error (.conflict e.id), some d)
  | .save e, none => (.error (.notFound e.id), none)
  | .save e, some _ => (.ok (), some e)
  | .delete id, none => (.error (.notFound id), none)
  | .delete _, some _ => (.ok (), none)

theorem outcome_failed (w : Write) {x : Option Event} (failed : (w.outcome x).1 ≠ .ok ()) :
    (w.outcome x).2 = x := by
  cases w <;> cases x <;> first | rfl | exact absurd rfl failed

end Write

namespace LocalService

variable (s : LocalService)

/-- All that a write does: it looks at its own id, and it changes nothing else. -/
theorem serve_write (w : Write) :
    (s.serve w.call).1 = .done (w.outcome (s.events.find? w.target)).1 ∧
      ∀ k, (s.serve w.call).2.events.find? k =
        if k = w.target then (w.outcome (s.events.find? w.target)).2 else s.events.find? k := by
  have same (id k : String) (x : Option Event) (here : s.events.find? id = x) :
      s.events.find? k = if k = id then x else s.events.find? k := by
    by_cases own : k = id
    · simp [own, here]
    · simp [own]
  cases w with
  | insert e =>
    cases found : s.events.find? e.id with
    | none =>
      obtain ⟨d, inserted⟩ := Collection.insert_vacant found e
      simp only [Write.call, Write.target, Write.outcome, serve, answer, EventStore.insert, inserted,
        storing, found]
      exact ⟨trivial, Collection.find?_insert inserted⟩
    | some d =>
      have taken := Collection.insert_taken (x := e) found
      simp only [Write.call, Write.target, Write.outcome, serve, answer, EventStore.insert, taken,
        storing, found]
      exact ⟨trivial, fun k => same e.id k _ found⟩
  | save e =>
    cases found : s.events.find? e.id with
    | none =>
      have missing := Collection.save_missing (x := e) found
      simp only [Write.call, Write.target, Write.outcome, serve, answer, EventStore.save, missing,
        storing, found]
      exact ⟨trivial, fun k => same e.id k _ found⟩
    | some d =>
      obtain ⟨d, saved⟩ := Collection.save_present found e
      simp only [Write.call, Write.target, Write.outcome, serve, answer, EventStore.save, saved,
        storing, found]
      exact ⟨trivial, Collection.find?_save saved⟩
  | delete id =>
    cases found : s.events.find? id with
    | none =>
      have missing := Collection.delete_missing found
      simp only [Write.call, Write.target, Write.outcome, serve, answer, missing, storing, found]
      exact ⟨trivial, fun k => same id k _ found⟩
    | some d =>
      obtain ⟨d, deleted⟩ := Collection.delete_present found
      simp only [Write.call, Write.target, Write.outcome, serve, answer, deleted, storing, found]
      exact ⟨trivial, Collection.find?_delete deleted⟩

/-- Whatever is no write leaves the events alone. -/
theorem serve_look {c : StorageCall} (look : ∀ w : Write, c ≠ w.call) :
    (s.serve c).2.events = s.events := by
  cases c with
  | insert e => exact absurd rfl (look (.insert e))
  | save e => exact absurd rfl (look (.save e))
  | delete id => exact absurd rfl (look (.delete id))
  | findByStartDate | findByRemindIn | notification => rfl
  | record n =>
    simp only [serve, answer]
    cases s.notifications.record n <;> rfl

/-- A call that is not carried out leaves everything as it was. -/
theorem serve_undone {c : StorageCall} (undone : (s.serve c).1.isDone = false) :
    (s.serve c).2 = s := by
  have kept (result : Except StorageError EventStore)
      (undone : StorageAnswer.isDone (.done (s.storing result).1) = false) :
      (s.storing result).2 = s := by
    cases result with
    | ok events => cases undone
    | error e => rfl
  cases c with
  | insert e => exact kept _ undone
  | save e => exact kept _ undone
  | delete id => exact kept _ undone
  | findByStartDate | findByRemindIn | notification => rfl
  | record n =>
    simp only [serve, answer] at undone ⊢
    cases recorded : s.notifications.record n with
    | ok notifications =>
      rw [recorded] at undone
      cases undone
    | error e => rfl

end LocalService

/-! ## Histories -/

/-- A call and what it was answered. -/
abbrev StorageReply := StorageCall × StorageAnswer

namespace StorageReply

/-- The event that it has filed. -/
def filed? : StorageReply → Option Event
  | (.insert e, .done (.ok ())) | (.save e, .done (.ok ())) => some e
  | _ => none

/-- The id that it has begun to use. -/
def inserted? : StorageReply → Option String
  | (.insert e, .done (.ok ())) => some e.id
  | _ => none

/-- The id that it has set free. -/
def deleted? : StorageReply → Option String
  | (.delete id, .done (.ok ())) => some id
  | _ => none

/-- It has changed what is filed under an id. -/
def Changes (id : String) (r : StorageReply) : Prop :=
  r.deleted? = some id ∨ ∃ e, r.filed? = some e ∧ e.id = id

/-- Whether it has taken an id or set it free. -/
def passage? (id : String) (r : StorageReply) : Option Bool :=
  if r.inserted? = some id then some true
  else if r.deleted? = some id then some false
  else none

/-- What somebody was told who tried to insert an event under an id. -/
def attempt? (id : String) : StorageReply → Option StorageAnswer
  | (.insert e, a) => if e.id = id then some a else none
  | _ => none

theorem filed_of_inserted {id : String} {r : StorageReply} (h : r.inserted? = some id) :
    ∃ e, r.filed? = some e ∧ e.id = id := by
  unfold inserted? at h
  split at h
  · exact ⟨_, rfl, Option.some.inj h⟩
  · cases h

end StorageReply

namespace LocalService

/-- The storage after calls that are made one after the other. -/
def serveAll (s : LocalService) : List StorageCall → LocalService
  | [] => s
  | c :: later => (s.serve c).2.serveAll later

/-- The calls with their answers. -/
def history (s : LocalService) : List StorageCall → List StorageReply
  | [] => []
  | c :: later => (c, (s.serve c).1) :: (s.serve c).2.history later

end LocalService

/-- Something has begun at a point of a history, and nothing after it has put an end to it. -/
def Since {α : Type} (begins ends : α → Prop) (h : List α) : Prop :=
  ∃ earlier x later, h = earlier ++ x :: later ∧ begins x ∧ ∀ y ∈ later, ¬ ends y

theorem not_since_nil {α : Type} (begins ends : α → Prop) : ¬ Since begins ends [] := by
  rintro ⟨earlier, x, later, split, -⟩
  simp at split

theorem since_concat {α : Type} {begins ends : α → Prop} {h : List α} {x : α} :
    Since begins ends (h ++ [x]) ↔ begins x ∨ ¬ ends x ∧ Since begins ends h := by
  constructor
  · rintro ⟨earlier, y, later, split, begun, lasts⟩
    cases later using List.reverseRecOn with
    | nil =>
      obtain ⟨-, same⟩ := List.append_inj' split rfl
      obtain rfl : x = y := (List.cons.inj same).1
      exact .inl begun
    | append_singleton later z =>
      rw [← List.cons_append, ← List.append_assoc] at split
      obtain ⟨before, same⟩ := List.append_inj' split rfl
      obtain rfl : x = z := (List.cons.inj same).1
      refine .inr ⟨lasts x (by simp), earlier, y, later, before, begun, ?_⟩
      exact fun w member => lasts w (List.mem_append_left _ member)
  · rintro (begun | ⟨goes_on, earlier, y, later, rfl, begun, lasts⟩)
    · exact ⟨h, x, [], rfl, begun, by simp⟩
    · refine ⟨earlier, y, later ++ [x], by simp, begun, ?_⟩
      intro w member
      rcases List.mem_append.mp member with before | now
      · exact lasts w before
      · rw [List.mem_singleton.mp now]
        exact goes_on

/-- An id is taken: it was inserted and has not been deleted since. -/
def InUse (id : String) (h : List StorageReply) : Prop :=
  Since (·.inserted? = some id) (·.deleted? = some id) h

/-- An event is what an id was filled with last. -/
def FiledLast (id : String) (e : Event) (h : List StorageReply) : Prop :=
  e.id = id ∧ Since (·.filed? = some e) (·.Changes id) h

/-- When an id was taken and when it was set free, in order. -/
def passages (id : String) (h : List StorageReply) : List Bool :=
  h.filterMap (StorageReply.passage? id)

theorem passages_concat (id : String) (h : List StorageReply) (r : StorageReply) :
    passages id (h ++ [r]) = passages id h ++ (r.passage? id).toList := by
  unfold passages
  rw [List.filterMap_append]
  cases found : r.passage? id <;> simp [found]

/-- Strictly in turn, and first an id is taken. -/
def Alternating (passages : List Bool) : Prop :=
  passages.IsChain (· ≠ ·) ∧ passages.head? ≠ some false

theorem Alternating.concat {passages : List Bool} {b : Bool} (h : Alternating passages)
    (turn : passages.getLast? ≠ some b) (first : passages = [] → b = true) :
    Alternating (passages ++ [b]) := by
  constructor
  · apply h.1.append (.singleton b)
    intro x last y now
    cases now
    rintro rfl
    exact turn last
  · cases passages with
    | nil => simp [first rfl]
    | cons x rest => exact h.2

/-- How the history stands to what is filed under an id. -/
structure Recorded (id : String) (h : List StorageReply) (s : LocalService) : Prop where
  filed : ∀ e, s.events.find? id = some e ↔ FiledLast id e h
  taken : (∃ e, s.events.find? id = some e) ↔ InUse id h
  last : (∃ e, s.events.find? id = some e) ↔ (passages id h).getLast? = some true
  alternating : Alternating (passages id h)

namespace Recorded

variable {id : String} {h : List StorageReply} {s s' : LocalService} {r : StorageReply}

theorem new (id : String) (maxDeliver : Int) : Recorded id [] (.new maxDeliver) where
  filed := by
    intro e
    constructor
    · intro found
      cases found
    · exact fun last => absurd last.2 (not_since_nil _ _)
  taken := by
    constructor
    · rintro ⟨e, found⟩
      cases found
    · exact fun taken => absurd taken (not_since_nil _ _)
  last := by
    constructor
    · rintro ⟨e, found⟩
      cases found
    · intro last
      cases last
  alternating := ⟨.nil, by simp [passages]⟩

/-- A call that leaves the id alone. -/
theorem idle (before : Recorded id h s) (unchanged : ¬ r.Changes id)
    (same : s'.events.find? id = s.events.find? id) : Recorded id (h ++ [r]) s' := by
  have kept : r.deleted? ≠ some id := fun deleted => unchanged (.inl deleted)
  have unused : r.inserted? ≠ some id := fun inserted =>
    unchanged (.inr (StorageReply.filed_of_inserted inserted))
  have silent : passages id (h ++ [r]) = passages id h := by
    simp [passages_concat, StorageReply.passage?, kept, unused]
  constructor
  · intro e
    have other (own : e.id = id) : r.filed? ≠ some e := fun filed => unchanged (.inr ⟨e, filed, own⟩)
    rw [same, before.filed, FiledLast, FiledLast, since_concat]
    apply and_congr_right
    intro own
    rw [or_iff_right (other own), and_iff_right unchanged]
  · rw [same, before.taken, InUse, InUse, since_concat, or_iff_right unused, and_iff_right kept]
  · rw [same, silent]
    exact before.last
  · rw [silent]
    exact before.alternating

/-- What a call has filed is what is filed. -/
theorem filed_last {e : Event} (filed : r.filed? = some e) (own : e.id = id)
    (found : s'.events.find? id = some e) (d : Event) :
    s'.events.find? id = some d ↔ FiledLast id d (h ++ [r]) := by
  have changed : r.Changes id := .inr ⟨e, filed, own⟩
  rw [found, FiledLast, since_concat, filed]
  constructor
  · rintro ⟨⟩
    exact ⟨own, .inl rfl⟩
  · rintro ⟨-, now | ⟨unchanged, -⟩⟩
    · exact now
    · exact absurd changed unchanged

theorem insert {e : Event} (before : Recorded e.id h s) (vacant : s.events.find? e.id = none)
    (found : s'.events.find? e.id = some e) :
    Recorded e.id (h ++ [(.insert e, .done (.ok ()))]) s' := by
  have passed : passages e.id (h ++ [(.insert e, .done (.ok ()))]) = passages e.id h ++ [true] := by
    simp [passages_concat, StorageReply.passage?, StorageReply.inserted?]
  have free : (passages e.id h).getLast? ≠ some true := by
    intro last
    obtain ⟨d, stored⟩ := before.last.mpr last
    rw [vacant] at stored
    cases stored
  constructor
  · exact filed_last rfl rfl found
  · exact iff_of_true ⟨e, found⟩ (since_concat.mpr (.inl rfl))
  · rw [passed]
    exact iff_of_true ⟨e, found⟩ List.getLast?_concat
  · rw [passed]
    exact before.alternating.concat free fun _ => rfl

theorem save {e d : Event} (before : Recorded e.id h s) (stored : s.events.find? e.id = some d)
    (found : s'.events.find? e.id = some e) :
    Recorded e.id (h ++ [(.save e, .done (.ok ()))]) s' := by
  have silent : passages e.id (h ++ [(.save e, .done (.ok ()))]) = passages e.id h := by
    simp [passages_concat, StorageReply.passage?, StorageReply.inserted?, StorageReply.deleted?]
  constructor
  · exact filed_last rfl rfl found
  · refine iff_of_true ⟨e, found⟩ (since_concat.mpr (.inr ⟨?_, before.taken.mp ⟨d, stored⟩⟩))
    simp [StorageReply.deleted?]
  · rw [silent]
    exact iff_of_true ⟨e, found⟩ (before.last.mp ⟨d, stored⟩)
  · rw [silent]
    exact before.alternating

theorem delete {d : Event} (before : Recorded id h s) (stored : s.events.find? id = some d)
    (gone : s'.events.find? id = none) :
    Recorded id (h ++ [(.delete id, .done (.ok ()))]) s' := by
  have passed : passages id (h ++ [(.delete id, .done (.ok ()))]) = passages id h ++ [false] := by
    simp [passages_concat, StorageReply.passage?, StorageReply.inserted?, StorageReply.deleted?]
  have deleted : StorageReply.deleted? (.delete id, .done (.ok ())) = some id := rfl
  have missing : ¬ ∃ e, s'.events.find? id = some e := by simp [gone]
  have last := before.last.mp ⟨d, stored⟩
  constructor
  · intro e
    refine iff_of_false (fun found => missing ⟨e, found⟩) ?_
    rintro ⟨-, filed⟩
    rcases since_concat.mp filed with now | ⟨unchanged, -⟩
    · cases now
    · exact unchanged (.inl deleted)
  · refine iff_of_false missing fun taken => ?_
    rcases since_concat.mp taken with now | ⟨kept, -⟩
    · cases now
    · exact kept deleted
  · rw [passed, List.getLast?_concat]
    exact iff_of_false missing (by simp)
  · rw [passed]
    apply before.alternating.concat
    · simp [last]
    · intro none
      simp [none] at last

/-- A change of an id is a write of that id that was carried out. -/
theorem write_of_changes {c : StorageCall} {a : StorageAnswer}
    (changed : StorageReply.Changes id (c, a)) :
    ∃ w : Write, c = w.call ∧ w.target = id ∧ a = .done (.ok ()) := by
  rcases changed with deleted | ⟨e, filed, own⟩
  · unfold StorageReply.deleted? at deleted
    split at deleted
    · rename_i gone same
      cases same
      exact ⟨.delete gone, rfl, Option.some.inj deleted, rfl⟩
    · cases deleted
  · unfold StorageReply.filed? at filed
    split at filed
    · rename_i d same
      cases same
      cases filed
      exact ⟨.insert e, rfl, own, rfl⟩
    · rename_i d same
      cases same
      cases filed
      exact ⟨.save e, rfl, own, rfl⟩
    · cases filed

theorem changes_of_done (w : Write) :
    StorageReply.Changes w.target (w.call, .done (.ok ())) := by
  cases w with
  | insert e | save e => exact .inr ⟨e, rfl, rfl⟩
  | delete id => exact .inl rfl

theorem find?_unchanged {c : StorageCall}
    (unchanged : ¬ StorageReply.Changes id (c, (s.serve c).1)) :
    (s.serve c).2.events.find? id = s.events.find? id := by
  by_cases look : ∀ w : Write, c ≠ w.call
  · rw [s.serve_look look]
  · obtain ⟨w, rfl⟩ := not_forall_not.mp look
    obtain ⟨told, found⟩ := s.serve_write w
    rw [found]
    by_cases own : id = w.target
    · subst own
      rw [if_pos rfl]
      apply w.outcome_failed
      intro done
      rw [told, done] at unchanged
      exact unchanged (changes_of_done w)
    · rw [if_neg own]

theorem serve (before : Recorded id h s) (c : StorageCall) :
    Recorded id (h ++ [(c, (s.serve c).1)]) (s.serve c).2 := by
  by_cases changed : StorageReply.Changes id (c, (s.serve c).1)
  · obtain ⟨w, rfl, rfl, done⟩ := write_of_changes changed
    obtain ⟨told, found⟩ := s.serve_write w
    have now := (found w.target).trans (if_pos rfl)
    rw [done] at told ⊢
    cases stored : s.events.find? w.target with
    | none =>
      rw [stored] at told now
      cases w with
      | insert e => exact before.insert stored now
      | save e => cases told
      | delete id => cases told
    | some d =>
      rw [stored] at told now
      cases w with
      | insert e => cases told
      | save e => exact before.save stored now
      | delete id => exact before.delete stored now
  · exact before.idle changed (find?_unchanged changed)

theorem serveAll (before : Recorded id h s) (calls : List StorageCall) :
    Recorded id (h ++ s.history calls) (s.serveAll calls) := by
  induction calls generalizing h s with
  | nil =>
    rw [LocalService.history, List.append_nil]
    exact before
  | cons c later ih =>
    have rest := ih (before.serve c)
    rwa [List.append_assoc] at rest

end Recorded

/-! ## Races -/

/-- What those were told who tried to insert an event under an id, in order. -/
def attempts (id : String) (h : List StorageReply) : List StorageAnswer :=
  h.filterMap (StorageReply.attempt? id)

theorem attempts_insert (e : Event) (a : StorageAnswer) (h : List StorageReply) :
    attempts e.id ((.insert e, a) :: h) = a :: attempts e.id h := by
  simp [attempts, StorageReply.attempt?]

theorem attempts_other {id : String} {c : StorageCall}
    (other : ∀ e : Event, e.id = id → c ≠ .insert e) (a : StorageAnswer) (h : List StorageReply) :
    attempts id ((c, a) :: h) = attempts id h := by
  apply List.filterMap_cons_none
  unfold StorageReply.attempt?
  split
  · rename_i e a same
    cases same
    exact if_neg fun own => other e own rfl
  · rfl

/-- The answer to those who come too late. -/
def StorageAnswer.taken (id : String) : StorageAnswer := .done (.error (.conflict id))

namespace LocalService

variable {s : LocalService} {id : String}

theorem serve_insert_free {e : Event} (free : s.events.find? e.id = none) :
    (s.serve (.insert e)).1 = .done (.ok ()) ∧
      (s.serve (.insert e)).2.events.find? e.id = some e := by
  obtain ⟨told, found⟩ := s.serve_write (.insert e)
  have now := (found e.id).trans (if_pos rfl)
  simp only [Write.target, free] at told now
  exact ⟨told, now⟩

theorem serve_insert_taken {e d : Event} (taken : s.events.find? e.id = some d) :
    (s.serve (.insert e)).1 = .taken e.id ∧
      (s.serve (.insert e)).2.events.find? e.id = some d := by
  obtain ⟨told, found⟩ := s.serve_write (.insert e)
  have now := (found e.id).trans (if_pos rfl)
  simp only [Write.target, taken] at told now
  exact ⟨told, now⟩

/-- Only an insertion fills an id that is free. -/
theorem serve_free {c : StorageCall} (free : s.events.find? id = none)
    (other : ∀ e : Event, e.id = id → c ≠ .insert e) : (s.serve c).2.events.find? id = none := by
  by_cases changed : StorageReply.Changes id (c, (s.serve c).1)
  · obtain ⟨w, rfl, rfl, done⟩ := Recorded.write_of_changes changed
    obtain ⟨told, -⟩ := s.serve_write w
    rw [done, free] at told
    cases w with
    | insert e => exact absurd rfl (other e rfl)
    | save e => cases told
    | delete id => cases told
  · rw [Recorded.find?_unchanged changed, free]

/-- Only a deletion frees an id that is taken. -/
theorem serve_taken {c : StorageCall} {d : Event} (taken : s.events.find? id = some d)
    (kept : StorageReply.deleted? (c, (s.serve c).1) ≠ some id) :
    ∃ d', (s.serve c).2.events.find? id = some d' := by
  by_cases changed : StorageReply.Changes id (c, (s.serve c).1)
  · obtain ⟨w, rfl, rfl, done⟩ := Recorded.write_of_changes changed
    obtain ⟨-, found⟩ := s.serve_write w
    have now := (found w.target).trans (if_pos rfl)
    cases w with
    | insert e => exact ⟨d, (serve_insert_taken taken).2⟩
    | save e =>
      rw [taken] at now
      exact ⟨e, now⟩
    | delete id =>
      rw [done] at kept
      exact absurd rfl kept
  · exact ⟨d, (Recorded.find?_unchanged changed).trans taken⟩

/-- Who tries to insert under an id that is taken comes too late until it is deleted. -/
theorem attempts_taken {d : Event} (taken : s.events.find? id = some d) {race : List StorageCall}
    (kept : ∀ r ∈ s.history race, r.deleted? ≠ some id) :
    ∃ n, attempts id (s.history race) = List.replicate n (.taken id) := by
  induction race generalizing s d with
  | nil => exact ⟨0, rfl⟩
  | cons c later ih =>
    obtain ⟨d', still⟩ := serve_taken taken (kept _ (.head _))
    obtain ⟨n, rest⟩ := ih still fun r member => kept r (.tail _ member)
    by_cases other : ∀ e : Event, e.id = id → c ≠ .insert e
    · exact ⟨n, (attempts_other other _ _).trans rest⟩
    · simp only [not_forall, not_not] at other
      obtain ⟨e, rfl, rfl⟩ := other
      refine ⟨n + 1, (attempts_insert e _ _).trans ?_⟩
      rw [rest, (serve_insert_taken taken).1, List.replicate_succ]

/-- Of those who try to insert under an id that is free the first succeeds. -/
theorem attempts_free (free : s.events.find? id = none) {race : List StorageCall}
    (kept : ∀ r ∈ s.history race, r.deleted? ≠ some id) :
    attempts id (s.history race) = [] ∨
      ∃ n, attempts id (s.history race) = .done (.ok ()) :: List.replicate n (.taken id) := by
  induction race generalizing s with
  | nil => exact .inl rfl
  | cons c later ih =>
    have kept_later : ∀ r ∈ (s.serve c).2.history later, r.deleted? ≠ some id :=
      fun r member => kept r (.tail _ member)
    by_cases other : ∀ e : Event, e.id = id → c ≠ .insert e
    · have skipped := attempts_other other (s.serve c).1 ((s.serve c).2.history later)
      rw [history, skipped]
      exact ih (serve_free free other) kept_later
    · simp only [not_forall, not_not] at other
      obtain ⟨e, rfl, rfl⟩ := other
      obtain ⟨told, filed⟩ := serve_insert_free free
      obtain ⟨n, rest⟩ := attempts_taken filed kept_later
      refine .inr ⟨n, (attempts_insert e _ _).trans ?_⟩
      rw [rest, told]

end LocalService

/-! ## The law -/

open LocalService in
/-- **The history decides.** After any calls on an empty storage, an id was taken and set free
strictly in turn. What is filed under it is what was filed last and not deleted since, under its own
id. An insertion succeeds if the id is not taken, and saving and deleting if it is; the others are
told a conflict, or that there is nothing. Of those who race to insert under a free id exactly one
succeeds until a deletion does. What fails or only looks changes nothing, and what succeeds changes
nothing under other ids. -/
theorem history_decides (maxDeliver : Int) (calls : List StorageCall) (id : String) :
    let s := (LocalService.new maxDeliver).serveAll calls
    let h := (LocalService.new maxDeliver).history calls
    Alternating (passages id h) ∧
    (∀ e, s.events.find? id = some e ↔ FiledLast id e h) ∧
    (InUse id h →
      (∀ e, e.id = id → (s.serve (.insert e)).1 = .taken id ∧
        (s.serve (.save e)).1 = .done (.ok ())) ∧
      (s.serve (.delete id)).1 = .done (.ok ())) ∧
    (¬ InUse id h →
      s.events.find? id = none ∧
      (∀ e, e.id = id → (s.serve (.insert e)).1 = .done (.ok ()) ∧
        (s.serve (.save e)).1 = .done (.error (.notFound id))) ∧
      (s.serve (.delete id)).1 = .done (.error (.notFound id)) ∧
      ∀ race, (∀ r ∈ s.history race, r.deleted? ≠ some id) →
        attempts id (s.history race) = [] ∨
          ∃ n, attempts id (s.history race) =
            .done (.ok ()) :: List.replicate n (.taken id)) ∧
    ∀ c, ((s.serve c).1.isDone = false → (s.serve c).2 = s) ∧
      (c.target? ≠ some id → (s.serve c).2.events.find? id = s.events.find? id) := by
  intro s h
  have recorded : Recorded id h s := by
    have after := (Recorded.new id maxDeliver).serveAll calls
    rwa [List.nil_append] at after
  refine ⟨recorded.alternating, recorded.filed, ?_, ?_, ?_⟩
  · intro taken
    obtain ⟨d, found⟩ := recorded.taken.mpr taken
    have told (w : Write) (own : w.target = id) : (s.serve w.call).1 = .done (w.outcome (some d)).1 := by
      rw [(s.serve_write w).1, own, found]
    refine ⟨?_, told (.delete id) rfl⟩
    rintro e rfl
    exact ⟨told (.insert e) rfl, told (.save e) rfl⟩
  · intro untaken
    have free : s.events.find? id = none := by
      cases found : s.events.find? id with
      | none => rfl
      | some d => exact absurd (recorded.taken.mp ⟨d, found⟩) untaken
    have told (w : Write) (own : w.target = id) : (s.serve w.call).1 = .done (w.outcome none).1 := by
      rw [(s.serve_write w).1, own, free]
    refine ⟨free, ?_, told (.delete id) rfl, fun race kept => attempts_free free kept⟩
    rintro e rfl
    exact ⟨told (.insert e) rfl, told (.save e) rfl⟩
  · exact fun c => ⟨s.serve_undone, s.serve_other c⟩

/-- An event that is filed, moved and deleted before others race for its id. -/
def StorageCall.early : Event := ⟨"a", "", .zero, .zero, "", "", .zero⟩

def StorageCall.opening : List StorageCall :=
  [.insert early, .save { early with title := "moved" }, .delete "a"]

def StorageCall.race : List StorageCall :=
  [.delete "a", .insert { early with title := "first" }, .insert early, .findByStartDate
    ⟨.zero, .zero, by decide⟩, .insert early]

/-- The first of three wins, although somebody tries to delete before them. -/
theorem first_of_three_wins :
    ¬ InUse "a" ((LocalService.new 5).history StorageCall.opening) ∧
      ∃ n, attempts "a" (((LocalService.new 5).serveAll StorageCall.opening).history
        StorageCall.race) = .done (.ok ()) :: List.replicate n (.taken "a") := by
  obtain ⟨-, -, used, unused, -⟩ := history_decides 5 StorageCall.opening "a"
  have free : ¬ InUse "a" ((LocalService.new 5).history StorageCall.opening) := by
    intro taken
    have refused := ((used taken).1 StorageCall.early rfl).1
    have accepted : (((LocalService.new 5).serveAll StorageCall.opening).serve
        (.insert StorageCall.early)).1.isDone = true := by cbv
    rw [refused] at accepted
    cases accepted
  refine ⟨free, ?_⟩
  obtain ⟨-, -, -, wins⟩ := unused free
  have kept : ∀ r ∈ ((LocalService.new 5).serveAll StorageCall.opening).history StorageCall.race,
      r.deleted? ≠ some "a" := by
    have all_kept : (((LocalService.new 5).serveAll StorageCall.opening).history
        StorageCall.race).all (fun r => r.deleted? != some "a") = true := by cbv
    intro r member
    simpa using List.all_eq_true.mp all_kept r member
  refine (wins StorageCall.race kept).resolve_left fun none => ?_
  have some_tried : (attempts "a" (((LocalService.new 5).serveAll StorageCall.opening).history
      StorageCall.race)).isEmpty = false := by cbv
  rw [none] at some_tried
  cases some_tried

end Agenda
