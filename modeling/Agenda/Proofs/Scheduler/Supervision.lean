import Agenda.Proofs.Scheduler.Discipline

/-! What a scheduler does with its workers whatever becomes of their calls: it starts them, it watches
them, and it closes the connection when both are over. -/
namespace Agenda.Rehearsal

theorem shutdown_deaf : Deaf Shutdown := by
  intro state next
  cases state <;> nofun

namespace Scheduler

variable (pace : Pace) (x : Scheduler) (s : Stage)

theorem step_started : (x.step pace s).1.supervision ≠ .fresh := by
  intro fresh
  unfold Scheduler.step at fresh
  split at fresh
  · cases fresh
  · cases fresh
  · simp only at fresh
    split at fresh <;> cases fresh
  · rename_i stopped
    rw [stopped] at fresh
    cases fresh
  · rename_i crashed
    rw [crashed] at fresh
    cases fresh

/-- It begins to watch its workers when it starts. -/
theorem fresh_of_watching (watching : (x.step pace s).1.supervision = .watching) :
    x.supervision = .fresh := by
  unfold Scheduler.step at watching
  split at watching
  · assumption
  · cases watching
  · simp only at watching
    split at watching <;> cases watching
  · rename_i stopped
    rw [stopped] at watching
    cases watching
  · rename_i crashed
    rw [crashed] at watching
    cases watching

end Scheduler

namespace Course

/-- What the scheduler does itself in a step. -/
inductive Acts (pace : Pace) (x : Course) : Course → Prop
  | dispatcher {t : Nat} : x.scheduler.dispatcherDue x.stage = some t → t ≤ x.stage.time →
      Acts pace x (x.dispatch pace)
  | cleaner {t : Nat} : x.scheduler.cleanerDue x.stage = some t → t ≤ x.stage.time →
      Acts pace x (x.cleanup pace)
  | supervisor {t : Nat} : x.scheduler.due x.stage = some t → t ≤ x.stage.time →
      Acts pace x (x.supervise pace)

/-- The workers are not started before the scheduler, and it goes on when both are over. -/
structure Ordered (x : Course) : Prop where
  fresh : x.scheduler.supervision = .fresh →
    x.scheduler.dispatcher = .fresh ∧ x.scheduler.cleaner = .fresh
  watched : x.scheduler.supervision = .fresh ∨ x.scheduler.supervision = .watching ∨
    x.scheduler.dispatcher.isOver = true ∧ x.scheduler.cleaner.isOver = true

namespace Ordered

variable {pace : Pace} {x y : Course}

theorem start (seat : Seat) (stage : Stage) : (Course.start seat stage).Ordered where
  fresh := fun _ => ⟨rfl, rfl⟩
  watched := .inl rfl

theorem acts (h : x.Ordered) (acts : x.Acts pace y) : y.Ordered := by
  cases acts with
  | dispatcher due =>
    obtain ⟨started, running⟩ := Scheduler.running_of_due due
    refine ⟨fun fresh => absurd fresh started, ?_⟩
    rcases h.watched with fresh | watching | ⟨ended, -⟩
    · exact absurd fresh started
    · exact .inr (.inl watching)
    · rw [running] at ended
      cases ended
  | cleaner due =>
    obtain ⟨started, running⟩ := Scheduler.running_of_due due
    refine ⟨fun fresh => absurd fresh started, ?_⟩
    rcases h.watched with fresh | watching | ⟨-, ended⟩
    · exact absurd fresh started
    · exact .inr (.inl watching)
    · rw [running] at ended
      cases ended
  | supervisor due =>
    refine ⟨fun fresh => absurd fresh (Scheduler.step_started _ _ _), ?_⟩
    rcases h.watched with fresh | watching | ended
    · refine .inr (.inl ?_)
      simp only [Course.supervise, Scheduler.step, fresh]
    · simp only [Scheduler.due, watching, Option.ite_none_right_eq_some, Bool.and_eq_true] at due
      exact .inr (.inr (Disciplined.supervise_ended due.1))
    · exact .inr (.inr (Disciplined.supervise_ended ended))

end Ordered

end Course
end Agenda.Rehearsal
