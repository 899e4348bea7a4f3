import Agenda.LocalService
import Agenda.Proofs.Storage.Collection

/-! Calls to the storage in memory, and what they do to the events. -/
namespace Agenda

/-- A call to a storage of events and notifications. -/
inductive StorageCall
  | insert (e : Event)
  | save (e : Event)
  | delete (id : String)
  | findByStartDate (span : TimeSpan)
  | findByRemindIn (span : TimeSpan)
  | record (n : Notification)
  | notification (id : String)
deriving DecidableEq

inductive StorageAnswer
  | done (r : Except StorageError Unit)
  | events (r : Except StorageError (List Event))
  | notification (r : Except StorageError Notification)

/-- The backend did not run the call. -/
def StorageAnswer.isRefused : StorageAnswer → Bool
  | .done (.error (.backend _)) | .events (.error (.backend _))
  | .notification (.error (.backend _)) => true
  | _ => false

def LocalService.serve (s : LocalService) : StorageCall → StorageAnswer × LocalService
  | .insert e => let (a, _, s) := s.answer .new (.insert e); (.done a, s)
  | .save e => let (a, _, s) := s.answer .new (.save e); (.done a, s)
  | .delete id => let (a, _, s) := s.answer .new (.delete id); (.done a, s)
  | .findByStartDate span =>
    let (a, _, s) := s.answer .new (.findByStartDate span); (.events a, s)
  | .findByRemindIn span => let (a, _, s) := s.answer .new (.findByRemindIn span); (.events a, s)
  | .record n => let (a, _, s) := s.answer .new (.record n); (.done a, s)
  | .notification id => (.notification (s.notifications.get id), s)

/-- The event that a call puts into the storage. -/
def StorageCall.filing? : StorageCall → Option Event
  | .insert e | .save e => some e
  | _ => none

/-- The id of the event that a call may change. -/
def StorageCall.target? : StorageCall → Option String
  | .insert e | .save e => some e.id
  | .delete id => some id
  | _ => none

/-- The storage did what it was asked. -/
def StorageAnswer.isDone : StorageAnswer → Bool
  | .done (.ok ()) => true
  | _ => false

namespace LocalService

variable (s : LocalService)

/-- All that a call does to the events: it files one, it takes one away, or it fails or only looks
and leaves them as they are. -/
theorem serve_cases (c : StorageCall) :
    (∃ e, c.filing? = some e ∧ (s.serve c).1.isDone = true ∧
      ∀ k, (s.serve c).2.events.find? k = if k = e.id then some e else s.events.find? k) ∨
    (∃ id, c = .delete id ∧
      ∀ k, (s.serve c).2.events.find? k = if k = id then none else s.events.find? k) ∨
    (s.serve c).2.events = s.events ∧ (c.filing? ≠ none → (s.serve c).1.isDone = false) := by
  cases c with
  | insert e =>
    cases h : s.events.insert e with
    | ok d =>
      refine .inl ⟨e, rfl, ?_, ?_⟩ <;> simp only [serve, answer, storing, h]
      · rfl
      · exact Collection.find?_insert h
    | error e =>
      refine .inr (.inr ⟨?_, fun _ => ?_⟩) <;> simp only [serve, answer, storing, h]
      rfl
  | save e =>
    cases h : s.events.save e with
    | ok d =>
      refine .inl ⟨e, rfl, ?_, ?_⟩ <;> simp only [serve, answer, storing, h]
      · rfl
      · exact Collection.find?_save h
    | error e =>
      refine .inr (.inr ⟨?_, fun _ => ?_⟩) <;> simp only [serve, answer, storing, h]
      rfl
  | delete id =>
    cases h : s.events.delete id with
    | ok d =>
      refine .inr (.inl ⟨id, rfl, ?_⟩)
      simp only [serve, answer, storing, h]
      exact Collection.find?_delete h
    | error e =>
      refine .inr (.inr ⟨?_, fun filing => absurd rfl filing⟩)
      simp only [serve, answer, storing, h]
  | record n =>
    refine .inr (.inr ⟨?_, fun filing => absurd rfl filing⟩)
    simp only [serve, answer]
    cases s.notifications.record n <;> rfl
  | findByStartDate | findByRemindIn | notification =>
    exact .inr (.inr ⟨rfl, fun filing => absurd rfl filing⟩)

/-- After a deletion nothing is stored under the id, whether or not there was something. -/
theorem find?_delete (x : Endpoint) (id k : String) :
    (s.answer x (.delete id)).2.2.events.find? k =
      if k = id then none else s.events.find? k := by
  cases h : s.events.delete id with
  | ok d =>
    simp only [answer, storing, h]
    exact Collection.find?_delete h k
  | error e =>
    simp only [answer, storing, h]
    split
    · subst k
      cases found : s.events.find? id with
      | none => rfl
      | some y =>
        obtain ⟨d, hd⟩ := Collection.delete_present found
        rw [h] at hd
        cases hd
    · rfl

theorem serve_keyed (c : StorageCall) (keyed : s.events.Keyed Event.id) :
    (s.serve c).2.events.Keyed Event.id := by
  intro id x found
  rcases s.serve_cases c with ⟨e, -, -, after⟩ | ⟨gone, -, after⟩ | ⟨same, -⟩
  · rw [after] at found
    split at found
    · cases found
      exact Eq.symm ‹_›
    · exact keyed id x found
  · rw [after] at found
    split at found
    · cases found
    · exact keyed id x found
  · rw [same] at found
    exact keyed id x found

/-- What a call does not aim at stays as it is. -/
theorem serve_other (c : StorageCall) {id : String} (other : c.target? ≠ some id) :
    (s.serve c).2.events.find? id = s.events.find? id := by
  rcases s.serve_cases c with ⟨e, filing, -, after⟩ | ⟨gone, rfl, after⟩ | ⟨same, -⟩
  · have aimed : c.target? = some e.id := by
      cases c <;> cases filing <;> rfl
    rw [after, if_neg]
    rintro rfl
    exact other aimed
  · rw [after, if_neg]
    rintro rfl
    exact other rfl
  · rw [same]

end LocalService
end Agenda
