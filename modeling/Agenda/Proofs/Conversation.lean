import Agenda.Proofs.Storage.Query
import Agenda.Storage.Memory
import Agenda.Worker

/-! What a cycle asks of the storage and of the broker, whatever it is answered. -/
namespace Agenda

/-- A call with its answer. -/
abbrev Answered := (c : Call) × c.Answer

/-- The calls of a part of the service, from a state on until it has nothing more to do. -/
inductive Conversation {σ : Type} [Machine σ] : σ → List Answered → Prop
  | halted {s : σ} : Machine.move s = .halt → Conversation s []
  | asked {s : σ} {c : Call} {next : c.Answer → σ × List Notice} {a : c.Answer}
      {log : List Answered} : Machine.move s = .ask c next → Conversation (next a).1 log →
      Conversation s (⟨c, a⟩ :: log)

/-- Whether a deletion was tried. -/
def Removes (log : List Answered) (id : String) : Prop := Call.delete id ∈ log.map (·.1)

/-! ## Calls that follow in any case -/

section Decided

variable {σ : Type} [Machine σ]

/-- From this state on these calls follow, whatever they are answered. -/
inductive Decided : σ → List Call → Prop
  | halts {s : σ} : Machine.move s = .halt → Decided s []
  | asks {s : σ} {c : Call} {next : c.Answer → σ × List Notice} {calls : List Call} :
      Machine.move s = .ask c next → (∀ a, Decided (next a).1 calls) → Decided s (c :: calls)

theorem Decided.calls {s : σ} {calls : List Call} (h : Decided s calls) {log : List Answered}
    (talk : Conversation s log) : log.map (·.1) = calls := by
  induction h generalizing log with
  | halts halted =>
    cases talk with
    | halted => rfl
    | asked move =>
      rw [halted] at move
      cases move
  | asks move _ ih =>
    cases talk with
    | halted halted =>
      rw [move] at halted
      cases halted
    | asked again rest =>
      rw [move] at again
      cases again
      rw [List.map_cons, ih _ rest]

end Decided

/-- What a cycle asks for when it publishes an event. -/
def Dispatch.announcement (e : Event) : Call :=
  .produce (.publish (Notification.ofEvent e).toBytes)

/-- A cycle whose channel is open announces all that it has found and closes the channel. No answer,
and no error either, ends it earlier. -/
theorem Dispatch.decided_proceed (count : Nat) (due : List Event) :
    Decided (proceed count due) (due.map announcement ++ [.produce .closeChannel]) := by
  induction due with
  | nil =>
    apply Decided.asks rfl
    intro a
    cases a <;> exact .halts rfl
  | cons e later ih =>
    apply Decided.asks rfl
    intro a
    cases a <;> exact ih

theorem Dispatch.decided_nil_iff {d : Dispatch} : Decided d [] ↔ d = .finished := by
  constructor
  · intro h
    cases h with
    | halts halts =>
      cases d with
      | finished => rfl
      | query | openChannel | publish | closeChannel => cases halts
  · rintro rfl
    exact .halts rfl

namespace Cleanup

/-- A cycle goes through all that it has found. No answer, and no error either, ends it earlier. -/
theorem decided_proceed (count : Nat) (notices : List Notice) (found : List Event) :
    Decided (proceed count notices found).1 (found.map (.delete ·.id)) := by
  induction found generalizing notices with
  | nil => exact .halts rfl
  | cons e later ih =>
    apply Decided.asks rfl
    rintro (error | done)
    · cases error <;> exact ih _
    · exact ih _

theorem decided_nil_iff {d : Cleanup} : Decided d [] ↔ d = .finished := by
  constructor
  · intro h
    cases h with
    | halts halts =>
      cases d with
      | finished => rfl
      | query | delete => cases halts
  · rintro rfl
    exact .halts rfl

section Query

variable {window : TimeSpan} {log : List Answered}

theorem calls_of_found {found : List Event}
    (h : Conversation (Cleanup.query window) (⟨.findByStartDate window, .ok found⟩ :: log)) :
    log.map (·.1) = found.map (.delete ·.id) := by
  cases h with
  | asked move rest =>
    cases move
    exact (decided_proceed _ _ _).calls rest

theorem calls_of_error {error : StorageError}
    (h : Conversation (Cleanup.query window) (⟨.findByStartDate window, .error error⟩ :: log)) :
    log = [] := by
  cases h with
  | asked move rest =>
    cases move
    apply List.map_eq_nil_iff.mp
    cases error <;> exact (decided_nil_iff.mpr rfl).calls rest

/-- A cycle that the store answers tries to remove the stored events that start in its window. -/
theorem removes_iff {store : EventStore} (keyed : store.Keyed Event.id)
    (h : Conversation (Cleanup.query window)
      (⟨.findByStartDate window, store.findByStartDate window⟩ :: log)) {id : String} :
    Removes log id ↔ ∃ e, store.find? id = some e ∧ window.contains e.startDate = true := by
  have selected : ∀ e : Event, e ∈ Query.select (·.startsWithin window) (·.startDate) store.items ↔
      store.find? e.id = some e ∧ window.contains e.startDate = true := by
    intro e
    rw [Query.mem_select, Collection.mem_items_iff keyed, Event.startsWithin]
  have calls : log.map (·.1) =
      (Query.select (·.startsWithin window) (·.startDate) store.items).map (.delete ·.id) := by
    unfold EventStore.findByStartDate at h
    cases found : Query.answer (Query.select (·.startsWithin window) (·.startDate) store.items) with
    | ok events =>
      rw [found] at h
      rw [calls_of_found h, (Query.answer_eq_ok.mp found).1]
    | error e =>
      rw [found] at h
      rw [calls_of_error h, (Query.answer_eq_error.mp found).2]
      rfl
  simp only [Removes, calls, List.mem_map, Call.delete.injEq]
  constructor
  · rintro ⟨e, member, rfl⟩
    exact ⟨e, (selected e).mp member⟩
  · rintro ⟨e, stored, inside⟩
    have own := keyed id e stored
    exact ⟨e, (selected e).mpr ⟨own.symm ▸ stored, inside⟩, own⟩

end Query

end Cleanup
end Agenda
