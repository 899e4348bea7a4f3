import Agenda.Proofs.Storage.History

/-! Clients that write to ids of their own. However their calls are interleaved, each is told what
it would be told alone, and all leave the same events behind. -/
namespace Agenda

/-- Calls of clients in the order in which they are carried out. -/
abbrev Schedule (ι : Type) := List (ι × Write)

namespace Schedule

variable {ι : Type}

def calls (schedule : Schedule ι) : List StorageCall := schedule.map (·.2.call)

/-- One client makes all its calls, then the next. -/
def oneByOne (script : ι → List Write) (order : List ι) : Schedule ι :=
  order.flatMap fun i => (script i).map (i, ·)

/-- No id is written to by two clients. -/
def Separate (script : ι → List Write) : Prop :=
  ∀ i j, i ≠ j → ∀ v ∈ script i, ∀ w ∈ script j, v.target ≠ w.target

/-- The ids that a client writes to. -/
def Owns (script : ι → List Write) (i : ι) (id : String) : Prop := ∃ w ∈ script i, w.target = id

variable [DecidableEq ι]

/-- The calls of one client, in order. -/
def own (i : ι) : Schedule ι → List Write
  | [] => []
  | (j, w) :: later => if j = i then w :: own i later else own i later

/-- What one client is told. -/
def told (i : ι) (s : LocalService) : Schedule ι → List StorageAnswer
  | [] => []
  | (j, w) :: later =>
    if j = i then (s.serve w.call).1 :: told i (s.serve w.call).2 later
    else told i (s.serve w.call).2 later

/-- Every client makes the calls of its script, in their order. -/
def Interleaves (script : ι → List Write) (schedule : Schedule ι) : Prop :=
  ∀ i, schedule.own i = script i

theorem mem_own {i : ι} {w : Write} {schedule : Schedule ι} :
    w ∈ schedule.own i ↔ (i, w) ∈ schedule := by
  induction schedule with
  | nil => simp [own]
  | cons p later ih =>
    obtain ⟨j, v⟩ := p
    by_cases same : j = i
    · subst same
      simp [own, ih]
    · simp [own, same, ih, Ne.symm same]

/-- A call of a schedule is the client's if and only if it writes to an id of the client. -/
theorem owns_iff {script : ι → List Write} (separate : Separate script) {schedule : Schedule ι}
    (interleaves : schedule.Interleaves script) (i : ι) {p : ι × Write} (member : p ∈ schedule) :
    Owns script i p.2.target ↔ p.1 = i := by
  obtain ⟨j, w⟩ := p
  have scripted : w ∈ script j := interleaves j ▸ mem_own.mpr member
  constructor
  · rintro ⟨v, mine, same⟩
    by_contra other
    exact separate i j (Ne.symm other) v mine w scripted same
  · rintro rfl
    exact ⟨w, scripted, rfl⟩

end Schedule

/-! ## One client among others -/

/-- Two storages hold the same under some ids. -/
def LocalService.Agree (ids : String → Prop) (s t : LocalService) : Prop :=
  ∀ id, ids id → s.events.find? id = t.events.find? id

namespace LocalService.Agree

open Schedule

variable {ids : String → Prop} {s t : LocalService} {w : Write}

theorem refl (ids : String → Prop) (s : LocalService) : s.Agree ids s := fun _ _ => rfl

/-- A write to one of these ids comes to the same. -/
theorem inside (h : s.Agree ids t) (mine : ids w.target) :
    (s.serve w.call).1 = (t.serve w.call).1 ∧ (s.serve w.call).2.Agree ids (t.serve w.call).2 := by
  obtain ⟨told, found⟩ := s.serve_write w
  obtain ⟨told', found'⟩ := t.serve_write w
  constructor
  · rw [told, told', h _ mine]
  · intro id member
    rw [found, found', h _ mine, h _ member]

/-- A write to another id leaves these alone. -/
theorem outside (h : s.Agree ids t) (foreign : ¬ ids w.target) : (s.serve w.call).2.Agree ids t := by
  intro id member
  rw [(s.serve_write w).2, if_neg, h id member]
  rintro rfl
  exact foreign member

/-- Calls that all write elsewhere leave these ids alone. -/
theorem elsewhere (h : s.Agree ids t) {ι : Type} {schedule : Schedule ι}
    (foreign : ∀ p ∈ schedule, ¬ ids p.2.target) : (s.serveAll schedule.calls).Agree ids t := by
  induction schedule generalizing s with
  | nil => exact h
  | cons p later ih =>
    exact ih (h.outside (foreign p (.head _))) fun q member => foreign q (.tail _ member)

variable {ι : Type} [DecidableEq ι]

/-- Whatever the others do, a client is told what it would be told alone, and its ids hold what they
would hold. -/
theorem alone (h : s.Agree ids t) {i : ι} {schedule : Schedule ι}
    (parted : ∀ p ∈ schedule, ids p.2.target ↔ p.1 = i) :
    schedule.told i s = (t.history ((schedule.own i).map Write.call)).map Prod.snd ∧
      (s.serveAll schedule.calls).Agree ids (t.serveAll ((schedule.own i).map Write.call)) := by
  induction schedule generalizing s t with
  | nil => exact ⟨rfl, h⟩
  | cons p later ih =>
    obtain ⟨j, w⟩ := p
    have rest : ∀ p ∈ later, ids p.2.target ↔ p.1 = i := fun p member => parted p (.tail _ member)
    by_cases same : j = i
    · obtain ⟨answer, after⟩ := h.inside ((parted _ (.head _)).mpr same)
      obtain ⟨answers, final⟩ := ih after rest
      simp only [told, own, same, if_true, List.map_cons, history, answer, answers]
      exact ⟨trivial, final⟩
    · obtain ⟨answers, final⟩ := ih (h.outside fun mine => same ((parted _ (.head _)).mp mine)) rest
      simp only [told, own, same, if_false, answers]
      exact ⟨trivial, final⟩

end LocalService.Agree

/-! ## All clients together -/

namespace Schedule

variable {ι : Type} [DecidableEq ι] {script : ι → List Write} {schedule : Schedule ι}

/-- Each client is told what it would be told alone, and finds under its ids what it would leave
there alone. -/
theorem as_alone (separate : Separate script) (interleaves : schedule.Interleaves script)
    (s : LocalService) (i : ι) :
    schedule.told i s = (s.history ((script i).map Write.call)).map Prod.snd ∧
      (s.serveAll schedule.calls).Agree (Owns script i)
        (s.serveAll ((script i).map Write.call)) := by
  have alone := (LocalService.Agree.refl (Owns script i) s).alone fun p member =>
    owns_iff separate interleaves i member
  rwa [interleaves i] at alone

/-- What no client writes to stays as it was. -/
theorem unowned (interleaves : schedule.Interleaves script) (s : LocalService) :
    (s.serveAll schedule.calls).Agree (fun id => ∀ i, ¬ Owns script i id) s := by
  apply (LocalService.Agree.refl _ s).elsewhere
  intro p member nobody
  have scripted : p.2 ∈ script p.1 := interleaves p.1 ▸ mem_own.mpr member
  exact nobody p.1 ⟨p.2, scripted, rfl⟩

/-- Two interleavings of the same scripts leave the same events behind. -/
theorem events_determined (separate : Separate script) (interleaves : schedule.Interleaves script)
    {other : Schedule ι} (reordered : other.Interleaves script) (s : LocalService) :
    (s.serveAll schedule.calls).events = (s.serveAll other.calls).events := by
  apply Collection.eq_of_find?
  intro id
  by_cases owned : ∃ i, Owns script i id
  · obtain ⟨i, owns⟩ := owned
    have here := (as_alone separate interleaves s i).2 id owns
    have there := (as_alone separate reordered s i).2 id owns
    rw [here, there]
  · have nobody : ∀ i, ¬ Owns script i id := not_exists.mp owned
    rw [unowned interleaves s id nobody, unowned reordered s id nobody]

theorem own_append (i : ι) (a b : Schedule ι) : own i (a ++ b) = own i a ++ own i b := by
  induction a with
  | nil => rfl
  | cons p later ih =>
    obtain ⟨j, w⟩ := p
    by_cases same : j = i
    · simp [own, same, ih]
    · simp [own, same, ih]

/-- Of the calls of one client, all are its own and none is another's. -/
theorem own_tagged (i j : ι) (writes : List Write) :
    own i (writes.map (j, ·)) = if j = i then writes else [] := by
  induction writes with
  | nil => simp [own]
  | cons w later ih =>
    by_cases same : j = i
    · simp_all [own]
    · simp_all [own]

/-- Clients that take turns, each once, make the calls of their scripts. -/
theorem interleaves_oneByOne {order : List ι} (once : order.Nodup)
    (complete : ∀ i, script i ≠ [] → i ∈ order) : (oneByOne script order).Interleaves script := by
  have turn (i : ι) : own i (oneByOne script order) = if i ∈ order then script i else [] := by
    clear complete
    induction order with
    | nil => rfl
    | cons j later ih =>
      obtain ⟨fresh, once⟩ := List.nodup_cons.mp once
      simp only [oneByOne, List.flatMap_cons] at ih ⊢
      rw [own_append, own_tagged, ih once]
      by_cases same : j = i
      · subst same
        simp [fresh]
      · simp [same, Ne.symm same]
  intro i
  rw [turn]
  by_cases listed : i ∈ order
  · rw [if_pos listed]
  · rw [if_neg listed]
    by_contra empty
    exact listed (complete i (Ne.symm empty))

end Schedule

open Schedule in
/-- **Clients with ids of their own do not disturb each other.** Whatever is stored at first and
however their calls are interleaved, each is told call by call what it would be told alone. The
events come out the same for all interleavings, so do the queries at the end, and it is as if the
clients had made their calls one after the other, in any order. -/
theorem separate_clients_undisturbed {ι : Type} [DecidableEq ι] (s : LocalService)
    {script : ι → List Write} (separate : Separate script) {schedule : Schedule ι}
    (interleaves : schedule.Interleaves script) :
    (∀ i, schedule.told i s = (s.history ((script i).map Write.call)).map Prod.snd) ∧
    (∀ other : Schedule ι, other.Interleaves script →
      (s.serveAll schedule.calls).events = (s.serveAll other.calls).events ∧
      ∀ span,
        ((s.serveAll schedule.calls).serve (.findByStartDate span)).1 =
            ((s.serveAll other.calls).serve (.findByStartDate span)).1 ∧
          ((s.serveAll schedule.calls).serve (.findByRemindIn span)).1 =
            ((s.serveAll other.calls).serve (.findByRemindIn span)).1) ∧
    ∀ order : List ι, order.Nodup → (∀ i, script i ≠ [] → i ∈ order) →
      (s.serveAll schedule.calls).events =
        (s.serveAll (order.flatMap fun i => (script i).map Write.call)).events := by
  refine ⟨fun i => (as_alone separate interleaves s i).1, ?_, ?_⟩
  · intro other reordered
    have same := events_determined separate interleaves reordered s
    refine ⟨same, fun span => ?_⟩
    simp only [LocalService.serve, LocalService.answer, same, and_self]
  · intro order once complete
    have serial := events_determined separate interleaves (interleaves_oneByOne once complete) s
    have flat : (oneByOne script order).calls =
        order.flatMap fun i => (script i).map Write.call := by
      simp [calls, oneByOne, List.map_flatMap, Function.comp_def]
    rwa [flat] at serial

namespace Schedule

/-- One client files an event and takes it away again, the other fails to save and files twice. -/
def pair : Bool → List Write
  | true => [.insert StorageCall.early, .delete "a", .delete "a"]
  | false => [.save { StorageCall.early with id := "b" }, .insert { StorageCall.early with id := "b" },
      .insert { StorageCall.early with id := "b", title := "again" }]

def shuffled : Schedule Bool :=
  [(true, .insert StorageCall.early), (false, .save { StorageCall.early with id := "b" }),
    (false, .insert { StorageCall.early with id := "b" }), (true, .delete "a"),
    (false, .insert { StorageCall.early with id := "b", title := "again" }), (true, .delete "a")]

end Schedule

open Schedule in
/-- Two clients that take turns unevenly, with failures on both sides. -/
theorem uneven_turns_undisturbed :
    Separate pair ∧ shuffled.Interleaves pair ∧
      (∀ i, shuffled.told i (.new 5) =
        ((LocalService.new 5).history ((pair i).map Write.call)).map Prod.snd) ∧
      ((LocalService.new 5).serveAll shuffled.calls).events =
        ((LocalService.new 5).serveAll
          ([false, true].flatMap fun i => (pair i).map Write.call)).events := by
  have separate : Separate pair := by
    intro i j distinct
    cases i <;> cases j <;> first | exact absurd rfl distinct | decide
  have interleaves : shuffled.Interleaves pair := by
    intro i
    cases i <;> decide
  obtain ⟨told, -, serial⟩ := separate_clients_undisturbed (.new 5) separate interleaves
  refine ⟨separate, interleaves, told, serial [false, true] (by decide) fun i _ => ?_⟩
  cases i <;> decide

end Agenda
