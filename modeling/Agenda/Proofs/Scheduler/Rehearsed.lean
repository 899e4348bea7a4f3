import Agenda.Proofs.Scheduler.Run
import Agenda.Rehearsal.Play

/-! A rehearsal, seen from one of its schedulers, is a run: who else acts changes only what is
shared, and time passes no further than to who is due first. -/
namespace Agenda.Rehearsal

open Course (Run Step)

/-! ## Who is due -/

theorem firstDue_none {r : Rehearsal} {l : List Actor} (h : r.firstDue l = none) :
    ∀ b ∈ l, r.due b = none := by
  induction l with
  | nil =>
    intro b hb
    cases hb
  | cons a rest ih =>
    unfold firstDue at h
    cases ha : r.due a with
    | some t =>
      cases hr : r.firstDue rest with
      | none =>
        rw [ha, hr] at h
        cases h
      | some later =>
        simp only [ha, hr] at h
        split at h <;> cases h
    | none =>
      rw [ha] at h
      intro b hb
      rcases List.mem_cons.mp hb with rfl | hb
      · exact ha
      · exact ih h b hb

theorem firstDue_spec {r : Rehearsal} {l : List Actor} {t : Nat} {a : Actor}
    (h : r.firstDue l = some (t, a)) :
    r.due a = some t ∧ ∀ b ∈ l, ∀ t', r.due b = some t' → t ≤ t' := by
  induction l generalizing t a with
  | nil => cases h
  | cons b rest ih =>
    unfold firstDue at h
    have least (early : ∀ tb, r.due b = some tb → t ≤ tb)
        (others : ∀ c ∈ rest, ∀ t', r.due c = some t' → t ≤ t') :
        ∀ c ∈ b :: rest, ∀ t', r.due c = some t' → t ≤ t' := by
      intro c hc t' due
      rcases List.mem_cons.mp hc with rfl | hc
      · exact early t' due
      · exact others c hc t' due
    cases hb : r.due b with
    | none =>
      rw [hb] at h
      obtain ⟨due, others⟩ := ih h
      exact ⟨due, least (fun tb due => nomatch hb.symm.trans due) others⟩
    | some tb =>
      cases hrest : r.firstDue rest with
      | none =>
        rw [hb, hrest] at h
        cases h
        refine ⟨hb, least ?_ ?_⟩
        · intro tb' due
          rw [Option.some.inj (hb.symm.trans due)]
        · intro c hc t' due
          rw [firstDue_none hrest c hc] at due
          cases due
      | some later =>
        obtain ⟨tc, c⟩ := later
        obtain ⟨due, others⟩ := ih hrest
        simp only [hb, hrest] at h
        split at h <;> cases h
        · rename_i first
          refine ⟨hb, least ?_ ?_⟩
          · intro tb' due
            rw [Option.some.inj (hb.symm.trans due)]
          · intro d hd t' due'
            exact Nat.le_trans first (others d hd t' due')
        · rename_i later
          refine ⟨due, least ?_ others⟩
          intro tb' due
          rw [← Option.some.inj (hb.symm.trans due)]
          omega

section Later

variable {s : Stage} {seat : Seat} {t time : Nat} (h : t ≤ time)
include h

/-- Who is due by a time is still due then. -/
theorem Performer.due_later {σ : Type} {p : Performer σ} (due : p.due ⟨seat, s⟩ = some t) :
    ∃ t' ≤ time, p.due ⟨seat, { s with time }⟩ = some t' := by
  unfold Performer.due at due ⊢
  cases hp : p.phase with
  | acting => exact ⟨time, Nat.le_refl _, rfl⟩
  | delayed at_ cut =>
    simp only [hp] at due
    exact ⟨t, h, due⟩
  | asleep =>
    simp only [hp] at due
    split at due
    · rename_i wakes
      exact ⟨time, Nat.le_refl _, if_pos wakes⟩
    · cases due
  | stuck | crashed | halted =>
    simp only [hp] at due
    cases due

theorem Worker.due_later {σ : Type} [Cycle σ] {w : Worker σ} (due : w.due ⟨seat, s⟩ = some t) :
    ∃ t' ≤ time, w.due ⟨seat, { s with time }⟩ = some t' := by
  cases w with
  | fresh => exact ⟨time, Nat.le_refl _, rfl⟩
  | waiting tick =>
    by_cases cancelled : Scene.isCancelled ⟨seat, s⟩ = true
    · exact ⟨time, Nat.le_refl _, congrArg some (if_pos cancelled)⟩
    · refine ⟨max tick.due time, ?_, congrArg some (if_neg cancelled)⟩
      have : max tick.due s.time = t := by
        simpa [Worker.due, cancelled, Scene.time] using due
      omega
  | cycling tick p => exact Performer.due_later h due
  | ended | failed => cases due

theorem Scheduler.dispatcherDue_later {x : Scheduler} (due : x.dispatcherDue s = some t) :
    ∃ t' ≤ time, x.dispatcherDue { s with time } = some t' := by
  by_cases fresh : x.isFresh = true
  · simp [Scheduler.dispatcherDue, fresh] at due
  · simp only [Scheduler.dispatcherDue, fresh] at due ⊢
    exact Worker.due_later h due

theorem Scheduler.cleanerDue_later {x : Scheduler} (due : x.cleanerDue s = some t) :
    ∃ t' ≤ time, x.cleanerDue { s with time } = some t' := by
  by_cases fresh : x.isFresh = true
  · simp [Scheduler.cleanerDue, fresh] at due
  · simp only [Scheduler.cleanerDue, fresh] at due ⊢
    exact Worker.due_later h due

theorem Scheduler.due_later {x : Scheduler} (due : x.due s = some t) :
    ∃ t' ≤ time, x.due { s with time } = some t' := by
  unfold Scheduler.due at due ⊢
  cases hx : x.supervision with
  | fresh => exact ⟨time, Nat.le_refl _, rfl⟩
  | watching =>
    simp only [hx] at due
    split at due
    · rename_i both_over
      exact ⟨time, Nat.le_refl _, if_pos both_over⟩
    · cases due
  | closing p =>
    simp only [hx] at due
    exact Performer.due_later h due
  | stopped | crashed =>
    simp only [hx] at due
    cases due

end Later

/-! ## What an actor leaves alone -/

theorem act_sameTime (r : Rehearsal) (a : Actor) : SameTime r.stage (r.act a).stage := by
  cases a with
  | errand =>
    simp only [act]
    split
    · exact .refl _
    · exact SameTime.performer _ _ _
    · exact SameTime.performer _ _ _
    · exact SameTime.performer _ _ _
  | dispatcher n =>
    simp only [act, withScheduler]
    split
    · exact .refl _
    · exact SameTime.worker _ _ _
  | cleaner n =>
    simp only [act, withScheduler]
    split
    · exact .refl _
    · exact SameTime.worker _ _ _
  | scheduler n =>
    simp only [act, withScheduler]
    split
    · exact .refl _
    · exact SameTime.scheduler _ _ _
  | sender n =>
    simp only [act]
    split
    · exact .refl _
    · exact SameTime.performer _ _ _

theorem act_pace (r : Rehearsal) (a : Actor) : (r.act a).pace = r.pace := by
  cases a <;> simp only [act, withScheduler] <;> split <;> rfl

/-- The scheduler that an actor belongs to. -/
def Actor.scheduler? : Actor → Option Nat
  | .dispatcher n | .cleaner n | .scheduler n => some n
  | .errand | .sender _ => none

theorem withScheduler_other {r : Rehearsal} {m n : Nat} (other : m ≠ n)
    (f : Scheduler → Stage → Scheduler × Stage) :
    (r.withScheduler m f).schedulers[n]? = r.schedulers[n]? := by
  unfold withScheduler
  split
  · rfl
  · exact List.getElem?_set_ne other

theorem withScheduler_self {r : Rehearsal} {n : Nat} {x : Scheduler}
    (hx : r.schedulers[n]? = some x) (f : Scheduler → Stage → Scheduler × Stage) :
    (r.withScheduler n f).schedulers[n]? = some (f x r.stage).1 ∧
      (r.withScheduler n f).stage = (f x r.stage).2 := by
  obtain ⟨inside, -⟩ := List.getElem?_eq_some_iff.mp hx
  simp only [withScheduler, hx, and_true]
  exact List.getElem?_set_self inside

theorem act_other {r : Rehearsal} {a : Actor} {n : Nat} (other : a.scheduler? ≠ some n) :
    (r.act a).schedulers[n]? = r.schedulers[n]? := by
  cases a with
  | errand =>
    simp only [act]
    split <;> rfl
  | dispatcher m => exact withScheduler_other (fun same => other (congrArg some same)) _
  | cleaner m => exact withScheduler_other (fun same => other (congrArg some same)) _
  | scheduler m => exact withScheduler_other (fun same => other (congrArg some same)) _
  | sender m =>
    simp only [act]
    split <;> rfl

/-! ## Rehearsals as runs -/

/-- The scheduler has got into its present state by a run. -/
def Accords (n : Nat) (r : Rehearsal) : Prop :=
  ∃ x rounds, r.schedulers[n]? = some x ∧ Run r.pace (fun _ => True) ⟨x, r.stage, rounds⟩

theorem accords_startScheduler (r : Rehearsal) :
    Accords r.schedulers.length r.startScheduler :=
  ⟨_, _, List.getElem?_concat_length, .start _ trivial⟩

theorem accords_of_run {pace : Pace} {n : Nat} {y : Course} {r : Rehearsal}
    (h : Run pace (fun _ => True) y) (scheduler : r.schedulers[n]? = some y.scheduler)
    (stage : r.stage = y.stage) (same : r.pace = pace) : Accords n r := by
  refine ⟨y.scheduler, y.rounds, scheduler, ?_⟩
  rw [same, stage]
  exact h

/-- What is done from outside, while no time passes, is one of the things that others do. -/
theorem accords_outside {r : Rehearsal} {n : Nat} (h : Accords n r) {stage : Stage}
    (same : SameTime r.stage stage) : Accords n { r with stage } := by
  obtain ⟨x, rounds, hx, run⟩ := h
  refine ⟨x, rounds, hx, .step run (.others _ same.2 (Nat.le_of_eq same.1.symm) ?_) trivial⟩
  intro t _
  rw [same.1]
  exact Nat.le_max_right _ _

theorem mem_actors {r : Rehearsal} {n : Nat} (inside : n < r.schedulers.length) {a : Actor}
    (own : a ∈ [.dispatcher n, .cleaner n, .scheduler n]) : a ∈ r.actors := by
  refine .tail _ (List.mem_append_left _ (List.mem_flatMap.mpr ⟨n, ?_, own⟩))
  exact List.mem_range.mpr inside

theorem accords_act {r : Rehearsal} {n t : Nat} {a : Actor} (h : Accords n r)
    (first : r.firstDue r.actors = some (t, a)) : Accords n ((r.wait t).act a) := by
  obtain ⟨x, rounds, hx, run⟩ := h
  obtain ⟨due, least⟩ := firstDue_spec first
  have inside : n < r.schedulers.length := (List.getElem?_eq_some_iff.mp hx).1
  -- time passes up to the first who is due
  have waited : Run r.pace (fun _ => True) ⟨x, (r.wait t).stage, rounds⟩ := by
    refine .step run (.others _ rfl (Nat.le_max_left _ _) ?_) trivial
    intro t' due'
    have order : t ≤ t' := by
      rcases due' with due' | due' | due'
      · apply least (.dispatcher n) (mem_actors inside (.head _))
        simp [Rehearsal.due, hx, due']
      · apply least (.cleaner n) (mem_actors inside (.tail _ (.head _)))
        simp [Rehearsal.due, hx, due']
      · apply least (.scheduler n) (mem_actors inside (.tail _ (.tail _ (.head _))))
        simp [Rehearsal.due, hx, due']
    change max r.stage.time t ≤ max t' r.stage.time
    omega
  have hw : (r.wait t).schedulers[n]? = some x := hx
  have past : t ≤ (r.wait t).stage.time := Nat.le_max_right _ _
  by_cases own : a.scheduler? = some n
  · cases a with
    | errand | sender => cases own
    | dispatcher m =>
      cases own
      simp only [Rehearsal.due, hx, Option.bind_some] at due
      obtain ⟨t', order, due'⟩ := Scheduler.dispatcherDue_later past due
      obtain ⟨next, stage⟩ := withScheduler_self hw (Scheduler.stepDispatcher (r.wait t).pace)
      exact accords_of_run (.step waited (.dispatcher due' order) trivial) next stage (act_pace _ _)
    | cleaner m =>
      cases own
      simp only [Rehearsal.due, hx, Option.bind_some] at due
      obtain ⟨t', order, due'⟩ := Scheduler.cleanerDue_later past due
      obtain ⟨next, stage⟩ := withScheduler_self hw (Scheduler.stepCleaner (r.wait t).pace)
      exact accords_of_run (.step waited (.cleaner due' order) trivial) next stage (act_pace _ _)
    | scheduler m =>
      cases own
      simp only [Rehearsal.due, hx, Option.bind_some] at due
      obtain ⟨t', order, due'⟩ := Scheduler.due_later past due
      obtain ⟨next, stage⟩ := withScheduler_self hw (Scheduler.step (r.wait t).pace)
      exact accords_of_run (.step waited (.supervisor due' order) trivial) next stage (act_pace _ _)
  · have before : Accords n (r.wait t) := ⟨x, rounds, hw, waited⟩
    obtain ⟨y, rounds', hy, run'⟩ := accords_outside before (act_sameTime (r.wait t) a)
    exact accords_of_run run' ((act_other own).trans hy) rfl (act_pace _ _)

/-- **A rehearsal is a run of each of its schedulers.** -/
theorem accords_play {r : Rehearsal} {n : Nat} (h : Accords n r) (isDone : Rehearsal → Bool)
    (deadline : Option Nat) (fuel : Nat) : Accords n (r.play isDone deadline fuel) := by
  induction fuel generalizing r with
  | zero => exact h
  | succ fuel ih =>
    unfold play
    split
    · exact h
    · split
      · exact h
      · rename_i t a first
        split
        · exact h
        · exact ih (accords_act h first)

end Agenda.Rehearsal
