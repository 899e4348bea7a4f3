import Mathlib
import Agenda.Cleanup
import Agenda.Proofs.Storage.Calls
import Agenda.Proofs.Storage.Query

/-! A cleanup cycle while clients write to the same events. The cycle removes by id what it has
found earlier, so it removes as well what a client has filed under such an id in the meantime. -/
namespace Agenda.Cleanup

/-- The ids that a cycle has found and has not tried to remove yet. -/
def pending : Cleanup → List String
  | .delete e later _ => e.id :: later.map (·.id)
  | _ => []

def hasQueried : Cleanup → Bool
  | .query _ => false
  | _ => true

/-- What the storage answers to a removal decides only what is logged. -/
theorem proceed_state (count : Nat) (notices : List Notice) (later : List Event) :
    (proceed count notices later).1 = (proceed count [] later).1 := by
  cases later <;> rfl

theorem pending_proceed (count : Nat) (later : List Event) :
    (proceed count [] later).1.pending = later.map (·.id) := by
  cases later <;> rfl

theorem hasQueried_proceed (count : Nat) (later : List Event) :
    (proceed count [] later).1.hasQueried = true := by
  cases later <;> rfl

/-- A cycle and the storage that it shares with clients. -/
structure Joint where
  cycle : Cleanup
  service : LocalService
  /-- What clients have filed under ids that were pending at that moment. -/
  overtaken : List Event

/-- One call. -/
inductive Turn
  | cycle
  /-- The call of the cycle takes too long and is not carried out. -/
  | cutOff (after : Duration)
  | client (c : StorageCall)

/-- The turn lets the cycle have its way and leaves an event alone. -/
def Turn.spares (id : String) : Turn → Prop
  | .cycle => True
  | .cutOff _ => False
  | .client c => c.target? ≠ some id

namespace Joint

def start (now : Timestamp) (interval : Duration) (service : LocalService) : Joint :=
  ⟨Cleanup.start now interval, service, []⟩

/-- A client calls. -/
def serve (s : Joint) (c : StorageCall) : Joint where
  cycle := s.cycle
  service := (s.service.serve c).2
  overtaken :=
    if (s.service.serve c).1.isDone then
      c.filing?.toList.filter (s.cycle.pending.contains ·.id) ++ s.overtaken
    else s.overtaken

def step (s : Joint) : Turn → Joint
  | .cycle => match Machine.move s.cycle with
    | .ask c next =>
      let (a, _, service) := s.service.answer .new c
      { s with cycle := (next a).1, service }
    | _ => s
  | .cutOff after => match Machine.move s.cycle with
    | .ask c next => { s with cycle := (next (c.timedOut after)).1 }
    | _ => s
  | .client c => s.serve c

def run (s : Joint) (turns : List Turn) : Joint := turns.foldl step s

/-- The next call of the cycle takes the event away. -/
def Destroys (s : Joint) (e : Event) : Prop :=
  s.service.events.find? e.id = some e ∧ (s.step .cycle).service.events.find? e.id = none

/-! ## What a turn does -/

variable {s : Joint} {e : Event} {later : List Event} {count : Nat} {window : TimeSpan}

theorem step_delete (h : s.cycle = .delete e later count) :
    s.step .cycle = { s with
      cycle := (proceed count [] later).1
      service := (s.service.answer .new (.delete e.id)).2.2 } := by
  simp only [step, h]
  change { s with cycle := _, service := _ } = _
  congr 1
  rcases (s.service.answer .new (.delete e.id)).1 with error | done
  · cases error <;> exact proceed_state _ _ _
  · rfl

theorem cutOff_delete (after : Duration) (h : s.cycle = .delete e later count) :
    s.step (.cutOff after) = { s with cycle := (proceed count [] later).1 } := by
  simp only [step, h]
  exact congrArg (fun cycle => { s with cycle }) (proceed_state _ _ _)

theorem step_query (h : s.cycle = .query window) :
    (s.step .cycle).service = s.service ∧ (s.step .cycle).overtaken = s.overtaken ∧
      (s.step .cycle).cycle.hasQueried = true ∧
      (s.step .cycle).cycle.pending =
        (Query.select (·.startsWithin window) (·.startDate) s.service.events.items).map (·.id) := by
  simp only [step, h, Machine.move, move, LocalService.answer, EventStore.findByStartDate, true_and]
  cases found : Query.answer
      (Query.select (·.startsWithin window) (·.startDate) s.service.events.items) with
  | ok events =>
    rw [(Query.answer_eq_ok.mp found).1]
    exact ⟨hasQueried_proceed _ _, pending_proceed _ _⟩
  | error e =>
    obtain ⟨rfl, none_found⟩ := Query.answer_eq_error.mp found
    rw [none_found]
    exact ⟨rfl, rfl⟩

theorem step_finished (h : s.cycle = .finished) : s.step .cycle = s := by
  simp only [step, h]
  rfl

theorem cutOff_finished (after : Duration) (h : s.cycle = .finished) :
    s.step (.cutOff after) = s := by
  simp only [step, h]
  rfl

theorem cutOff_query (after : Duration) (h : s.cycle = .query window) :
    s.step (.cutOff after) = { s with cycle := .finished } := by
  simp only [step, h]
  rfl

/-! ## What the cycle removes -/

/-- Whatever the cycle is still to remove was in its window or has been filed in the meantime. -/
structure Accounted (window : TimeSpan) (s : Joint) : Prop where
  keyed : s.service.events.Keyed Event.id
  asks : ∀ w, s.cycle = .query w → w = window
  pending : ∀ id ∈ s.cycle.pending, ∀ e, s.service.events.find? id = some e →
    window.contains e.startDate = true ∨ e ∈ s.overtaken

theorem hasQueried_iff {c : Cleanup} : c.hasQueried = true ↔ ∀ w, c ≠ .query w := by
  cases c <;> simp [hasQueried]

namespace Accounted

/-- A cycle never queries again. -/
theorem of_hasQueried (queried : s.cycle.hasQueried = true)
    (keyed : s.service.events.Keyed Event.id)
    (pending : ∀ id ∈ s.cycle.pending, ∀ e, s.service.events.find? id = some e →
      window.contains e.startDate = true ∨ e ∈ s.overtaken) : Accounted window s where
  keyed := keyed
  asks := fun w again => absurd again (hasQueried_iff.mp queried w)
  pending := pending

theorem cycle (h : Accounted window s) : Accounted window (s.step .cycle) := by
  cases hc : s.cycle with
  | query w =>
    obtain rfl := h.asks w hc
    obtain ⟨service, overtaken, queried, pending⟩ := step_query hc
    apply of_hasQueried
    · exact queried
    · exact service ▸ h.keyed
    · intro id listed e stored
      rw [pending, List.mem_map] at listed
      obtain ⟨found, selected, rfl⟩ := listed
      obtain ⟨member, inside⟩ := Query.mem_select.mp selected
      rw [Collection.mem_items_iff h.keyed] at member
      rw [service, member] at stored
      cases stored
      exact .inl inside
  | delete d later count =>
    rw [step_delete hc]
    apply of_hasQueried
    · exact hasQueried_proceed _ _
    · exact s.service.serve_keyed (.delete d.id) h.keyed
    · intro id listed e stored
      simp only [pending_proceed] at listed
      simp only [LocalService.find?_delete] at stored
      split at stored
      · cases stored
      · exact h.pending id (hc ▸ .tail _ listed) e stored
  | finished => exact (step_finished hc).symm ▸ h

theorem cutOff (h : Accounted window s) (after : Duration) :
    Accounted window (s.step (.cutOff after)) := by
  cases hc : s.cycle with
  | query w =>
    rw [cutOff_query after hc]
    apply of_hasQueried
    · rfl
    · exact h.keyed
    · intro id listed
      cases listed
  | delete d later count =>
    rw [cutOff_delete after hc]
    apply of_hasQueried
    · exact hasQueried_proceed _ _
    · exact h.keyed
    · intro id listed e stored
      simp only [pending_proceed] at listed
      exact h.pending id (hc ▸ .tail _ listed) e stored
  | finished => exact (cutOff_finished after hc).symm ▸ h

theorem serve (h : Accounted window s) (c : StorageCall) : Accounted window (s.serve c) := by
  refine ⟨s.service.serve_keyed c h.keyed, h.asks, ?_⟩
  intro id listed e stored
  have kept (before : s.service.events.find? id = some e) :
      window.contains e.startDate = true ∨ e ∈ (s.serve c).overtaken := by
    refine (h.pending id listed e before).imp_right fun member => ?_
    simp only [Joint.serve]
    split
    · exact List.mem_append_right _ member
    · exact member
  rcases s.service.serve_cases c with ⟨d, filing, done, after⟩ | ⟨gone, rfl, after⟩ | ⟨same, -⟩
  · simp only [Joint.serve, after] at stored
    split at stored
    · subst id
      cases stored
      have pending : s.cycle.pending.contains e.id = true := List.contains_iff_mem.mpr listed
      right
      simp only [Joint.serve, done, filing, if_true, Option.toList_some, List.filter_cons, pending]
      exact .head _
    · exact kept stored
  · simp only [Joint.serve, after] at stored
    split at stored
    · cases stored
    · exact kept stored
  · simp only [Joint.serve, same] at stored
    exact kept stored

theorem step (h : Accounted window s) (t : Turn) : Accounted window (s.step t) := by
  cases t with
  | cycle => exact h.cycle
  | cutOff after => exact h.cutOff after
  | client c => exact h.serve c

theorem run (h : Accounted window s) (turns : List Turn) : Accounted window (s.run turns) := by
  induction turns generalizing s with
  | nil => exact h
  | cons t later ih => exact ih (h.step t)

end Accounted

/-! ## What stays -/

variable {id : String} {t : Turn}

theorem step_hasQueried (queried : s.cycle.hasQueried = true) (t : Turn) :
    (s.step t).cycle.hasQueried = true := by
  cases t with
  | client c => exact queried
  | cycle =>
    cases hc : s.cycle with
    | query w =>
      rw [hc] at queried
      cases queried
    | delete d later count =>
      rw [step_delete hc]
      exact hasQueried_proceed _ _
    | finished => exact (step_finished hc).symm ▸ queried
  | cutOff after =>
    cases hc : s.cycle with
    | query w =>
      rw [hc] at queried
      cases queried
    | delete d later count =>
      rw [cutOff_delete after hc]
      exact hasQueried_proceed _ _
    | finished => exact (cutOff_finished after hc).symm ▸ queried

/-- After its query the cycle leaves alone what it has not found. -/
theorem step_keeps (queried : s.cycle.hasQueried = true) (spares : t.spares id)
    (clear : id ∉ s.cycle.pending) : id ∉ (s.step t).cycle.pending ∧
      (s.step t).service.events.find? id = s.service.events.find? id := by
  cases t with
  | client c => exact ⟨clear, s.service.serve_other c spares⟩
  | cutOff after => cases spares
  | cycle =>
    cases hc : s.cycle with
    | query w =>
      rw [hc] at queried
      cases queried
    | delete d later count =>
      rw [hc] at clear
      obtain ⟨other, rest⟩ := not_or.mp (mt List.mem_cons.mpr clear)
      rw [step_delete hc]
      refine ⟨(pending_proceed count later).symm ▸ rest, ?_⟩
      rw [LocalService.find?_delete, if_neg other]
    | finished => rw [step_finished hc]; exact ⟨clear, rfl⟩

/-- What the cycle has found stays found until it is gone. -/
theorem step_dooms (spares : t.spares id)
    (doomed : id ∈ s.cycle.pending ∨ s.service.events.find? id = none) :
    id ∈ (s.step t).cycle.pending ∨ (s.step t).service.events.find? id = none := by
  cases t with
  | client c => exact doomed.imp_right (s.service.serve_other c spares).trans
  | cutOff after => cases spares
  | cycle =>
    cases hc : s.cycle with
    | query w =>
      rw [hc] at doomed
      obtain ⟨service, -⟩ := step_query hc
      rcases doomed with listed | gone
      · cases listed
      · exact .inr (service ▸ gone)
    | delete d later count =>
      rw [step_delete hc]
      simp only [pending_proceed, LocalService.find?_delete]
      by_cases same : id = d.id
      · simp [same]
      · rw [hc] at doomed
        rcases doomed with listed | gone
        · exact .inl ((List.mem_cons.mp listed).resolve_left same)
        · simp [same, gone]
    | finished => rw [step_finished hc]; exact doomed

theorem run_keeps {turns : List Turn} (queried : s.cycle.hasQueried = true)
    (spares : ∀ t ∈ turns, t.spares id) (clear : id ∉ s.cycle.pending) :
    (s.run turns).service.events.find? id = s.service.events.find? id := by
  induction turns generalizing s with
  | nil => rfl
  | cons t later ih =>
    obtain ⟨clear, same⟩ := step_keeps queried (spares t (.head _)) clear
    exact (ih (step_hasQueried queried t) (fun t ht => spares t (.tail _ ht)) clear).trans same

theorem run_dooms {turns : List Turn} (spares : ∀ t ∈ turns, t.spares id)
    (doomed : id ∈ s.cycle.pending ∨ s.service.events.find? id = none) :
    id ∈ (s.run turns).cycle.pending ∨ (s.run turns).service.events.find? id = none := by
  induction turns generalizing s with
  | nil => exact doomed
  | cons t later ih =>
    exact ih (fun t ht => spares t (.tail _ ht)) (step_dooms (spares t (.head _)) doomed)

/-- An event that a client has filed survives the cycle if its id was not pending. -/
theorem filed_stays_iff {c : StorageCall} {turns : List Turn} (queried : s.cycle.hasQueried = true)
    (filing : c.filing? = some e) (done : (s.service.serve c).1.isDone = true)
    (spares : ∀ t ∈ turns, t.spares e.id) (ended : (s.run (.client c :: turns)).cycle = .finished) :
    (s.run (.client c :: turns)).service.events.find? e.id = some e ↔ e.id ∉ s.cycle.pending := by
  have stored : (s.serve c).service.events.find? e.id = some e := by
    rcases s.service.serve_cases c with ⟨d, filed, -, after⟩ | ⟨gone, rfl, -⟩ | ⟨-, failed⟩
    · rw [filing] at filed
      cases filed
      exact (after e.id).trans (if_pos rfl)
    · cases filing
    · rw [failed (by simp [filing])] at done
      cases done
  constructor
  · intro kept listed
    rcases run_dooms (s := s.serve c) spares (.inl listed) with pending | gone
    · change e.id ∈ (s.run (.client c :: turns)).cycle.pending at pending
      rw [ended] at pending
      cases pending
    · change (s.run (.client c :: turns)).service.events.find? e.id = none at gone
      rw [kept] at gone
      cases gone
  · intro clear
    exact (run_keeps (s := s.serve c) queried spares clear).trans stored

theorem pending_of_destroys (h : s.Destroys e) : e.id ∈ s.cycle.pending := by
  obtain ⟨stored, gone⟩ := h
  cases hc : s.cycle with
  | query w =>
    rw [(step_query hc).1, stored] at gone
    cases gone
  | delete d later count =>
    rw [step_delete hc] at gone
    simp only [LocalService.find?_delete] at gone
    split at gone
    · rename_i same
      exact same ▸ .head _
    · rw [stored] at gone
      cases gone
  | finished =>
    rw [step_finished hc, stored] at gone
    cases gone

/-- What comes about when a cycle begins at `now` and clients call in between, on whatever was
stored. -/
def Reachable (now : Timestamp) (interval : Duration) (s : Joint) : Prop :=
  ∃ service turns, service.events.Keyed Event.id ∧ s = (start now interval service).run turns

theorem Reachable.accounted {now : Timestamp} {interval : Duration}
    (h : Reachable now interval s) : Accounted (Cleanup.window now interval) s := by
  obtain ⟨service, turns, keyed, rfl⟩ := h
  apply Accounted.run _ turns
  constructor
  · exact keyed
  · intro w asked
    cases asked
    rfl
  · intro id listed
    cases listed

/-- **What a cleanup cycle destroys.** Whatever is called in between, a cycle removes events of its
window and events that were filed under an id which it had found and not yet tried to remove. What
a client files after the query is still there when the cycle has ended if and only if its id was
not pending. -/
theorem destroys_iff_pending {now : Timestamp} {interval : Duration} {s : Joint}
    (h : Reachable now interval s) :
    (∀ e, s.Destroys e →
      (Cleanup.window now interval).contains e.startDate = true ∨ e ∈ s.overtaken) ∧
    ∀ c e later, s.cycle.hasQueried = true → c.filing? = some e →
      (s.service.serve c).1.isDone = true → (∀ t ∈ later, t.spares e.id) →
      (s.run (.client c :: later)).cycle = .finished →
      ((s.run (.client c :: later)).service.events.find? e.id = some e ↔
        e.id ∉ s.cycle.pending) := by
  constructor
  · intro e destroys
    exact h.accounted.pending e.id (pending_of_destroys destroys) e destroys.1
  · intro c e later queried filing done spares ended
    exact filed_stays_iff queried filing done spares ended

/-- In November 2023. -/
def november : Timestamp := { seconds := 1700000000 }

def minute : Duration := .ofSeconds 60

/-- A year and half a minute before. -/
def expired : Event := ⟨"a", "", ⟨1668464030, by decide, by decide⟩, .greatest, "", "", .zero⟩

def postponed : Event := { expired with startDate := ⟨1700001000, by decide, by decide⟩ }

/-- The cycle has found the event. -/
def found : Joint :=
  (start november minute
    { LocalService.new 5 with events := ⟨[("a", expired)], by simp⟩ }).run [.cycle]

theorem reachable_found (turns : List Turn) : Reachable november minute (found.run turns) := by
  refine ⟨_, .cycle :: turns, ?_, rfl⟩
  apply Collection.keyed_iff_own.mpr
  simp [expired]

/-- An event that was moved out of the window is destroyed all the same. -/
theorem postponed_destroyed :
    Reachable november minute (found.run [.client (.save postponed)]) ∧
      (found.run [.client (.save postponed)]).Destroys postponed ∧
      (Cleanup.window november minute).contains postponed.startDate = false := by
  refine ⟨reachable_found _, ⟨?_, ?_⟩, by decide⟩ <;> cbv

/-- An event that is filed under another id in the meantime is not. -/
theorem newcomer_stays :
    Reachable november minute found ∧
      (Cleanup.window november minute).contains expired.startDate = true ∧
      (found.run [.client (.insert { postponed with id := "b" }), .cycle]).service.events.find?
        "b" = some { postponed with id := "b" } := by
  have overtaken : found.overtaken = [] := by cbv
  have pending : found.cycle.pending = ["a"] := by cbv
  obtain ⟨destroyed, filed⟩ := destroys_iff_pending (s := found) (reachable_found [])
  refine ⟨reachable_found [], ?_, ?_⟩
  · have destroys : found.Destroys expired := by constructor <;> cbv
    rcases destroyed expired destroys with inside | again
    · exact inside
    · rw [overtaken] at again
      cases again
  · have queried : found.cycle.hasQueried = true := by cbv
    have done : (found.service.serve (.insert { postponed with id := "b" })).1.isDone = true := by
      cbv
    have spares : ∀ t ∈ [Turn.cycle], t.spares "b" := by
      intro t ht
      rw [List.mem_singleton.mp ht]
      trivial
    have ended : (found.run [.client (.insert { postponed with id := "b" }), .cycle]).cycle =
        .finished := by cbv
    apply (filed _ { postponed with id := "b" } [.cycle] queried rfl done spares ended).mpr
    rw [pending]
    decide

end Joint
end Agenda.Cleanup
