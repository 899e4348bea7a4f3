import Agenda.Rehearsal.Scheduler

/-! What a step of a performer does, and what it leaves alone. -/
namespace Agenda.Rehearsal

/-! ## Time and clock -/

/-- The stages are of one time and one clock. -/
def SameTime (s s' : Stage) : Prop := s'.time = s.time ∧ s'.base = s.base

namespace SameTime

theorem refl (s : Stage) : SameTime s s := ⟨rfl, rfl⟩

theorem trans {a b c : Stage} (h : SameTime a b) (h' : SameTime b c) : SameTime a c :=
  ⟨h'.1.trans h.1, h'.2.trans h.2⟩

theorem log (s : Stage) (notices : List Notice) : SameTime s (s.log notices) := by
  unfold Stage.log
  induction notices generalizing s with
  | nil => exact refl s
  | cons n rest ih => exact trans ⟨rfl, rfl⟩ (ih (s.note (.notice n)))

theorem leave (s : Scene) : SameTime s.stage s.leave.stage := ⟨rfl, rfl⟩

theorem hear (s : Scene) : SameTime s.stage s.hear.2.stage := by
  unfold Scene.hear
  split
  · exact leave s
  · split
    · exact leave s
    · simp only
      split
      · split
        · refine trans ?_ (leave _)
          exact trans ⟨rfl, rfl⟩ (log _ _)
        · exact trans ⟨rfl, rfl⟩ (log _ _)
      · exact trans ⟨rfl, rfl⟩ (log _ _)

section Performer

variable {σ : Type} [Machine σ]

omit [Machine σ] in
theorem attempt (limit : Option Duration) (p : Performer σ) (c : Call)
    (next : c.Answer → σ × List Notice) (s : Scene) :
    SameTime s.stage (p.attempt limit c next s).2.stage := by
  unfold Performer.attempt
  simp only
  split
  · exact trans ⟨rfl, rfl⟩ (log _ _)
  · exact ⟨rfl, rfl⟩
  · exact ⟨rfl, rfl⟩
  · exact ⟨rfl, rfl⟩
  · split
    · exact trans ⟨rfl, rfl⟩ (log _ _)
    · exact trans ⟨rfl, rfl⟩ (log _ _)

theorem performer (limit : Option Duration) (p : Performer σ) (s : Scene) :
    SameTime s.stage (p.step limit s).2.stage := by
  unfold Performer.step
  split
  · exact refl _
  · split
    · exact attempt _ _ _ _ _
    · split
      · exact log _ _
      · exact trans ⟨rfl, rfl⟩ (log _ _)
    · exact refl _
  · simp only
    split
    · exact hear s
    · exact trans (hear s) (log _ _)

end Performer

theorem worker {σ : Type} [Cycle σ] (pace : Pace) (w : Worker σ) (s : Scene) :
    SameTime s.stage (w.step pace s).2.stage := by
  unfold Worker.step
  split
  · split <;> exact refl _
  · split
    · exact refl _
    · split <;> exact refl _
  · simp only
    split <;> exact performer _ _ _
  · exact refl _
  · exact refl _

theorem scheduler (pace : Pace) (x : Scheduler) (s : Stage) :
    SameTime s (x.step pace s).2 := by
  unfold Scheduler.step
  split
  · exact log _ _
  · exact log _ _
  · exact performer _ _ _
  · exact refl _
  · exact refl _

end SameTime

/-! ## Calls -/

namespace Performer

variable {σ : Type} [Machine σ]

/-- The call that a performer makes in its next step. One that waits has made its call before. -/
def issued? (p : Performer σ) : Option Call :=
  match p.phase, Machine.move p.state with
  | .acting, .ask c _ => some c
  | _, _ => none

/-- It acts, or its call will end. -/
def Active (p : Performer σ) : Prop := p.phase = .acting ∨ ∃ due cut, p.phase = .delayed due cut

/-- It acts, or its call will be carried out. -/
def Unhindered (p : Performer σ) : Prop := p.phase = .acting ∨ ∃ due, p.phase = .delayed due false

/-- The planned faults let a call be carried out in time. -/
def Passes (limit : Duration) (plan : FaultPlan) (c : Call) : Prop :=
  match plan.find? c with
  | none => True
  | some (.slow milliseconds) => milliseconds ≤ limit.milliseconds
  | some (.failing f) => f.answer? c = none
  | some _ => False

variable {p : Performer σ} {c : Call} {next : c.Answer → σ × List Notice} {limit : Duration}

/-- A call is broken off, takes its time or is answered. -/
theorem step_asks (active : p.Active) (asks : Machine.move p.state = .ask c next) (s : Scene) :
    (p.step (some limit) s).1.phase = .crashed ∨
      (∃ due cut, (p.step (some limit) s).1 = ⟨p.state, .delayed due cut⟩) ∨
      ∃ a, (p.step (some limit) s).1 = .start (next a).1 := by
  obtain ⟨state, phase⟩ := p
  rcases active with rfl | ⟨due, cut, rfl⟩
  · simp only [step, asks, attempt]
    split
    · exact .inr (.inr ⟨_, rfl⟩)
    · exact .inr (.inl ⟨_, _, rfl⟩)
    · simp only [delay]
      split <;> exact .inr (.inl ⟨_, _, rfl⟩)
    · exact .inl rfl
    · split <;> exact .inr (.inr ⟨_, rfl⟩)
  · simp only [step, asks]
    cases cut <;> exact .inr (.inr ⟨_, rfl⟩)

/-- A call that nothing hinders is answered by the service, perhaps after a while. -/
theorem step_passes (unhindered : p.Unhindered) (asks : Machine.move p.state = .ask c next)
    {s : Scene} (passes : Passes limit s.stage.faults c) :
    (∃ due, (p.step (some limit) s).1 = ⟨p.state, .delayed due false⟩) ∨
      (p.step (some limit) s).1 =
        .start (next (s.stage.service.answer s.seat.endpoint c).1).1 := by
  obtain ⟨state, phase⟩ := p
  unfold Passes at passes
  rcases unhindered with rfl | ⟨due, rfl⟩
  · simp only [step, asks, attempt, Scene.note, Stage.note]
    split at passes
    · rename_i unplanned
      simp only [unplanned]
      exact .inr rfl
    · rename_i milliseconds slow
      simp only [slow, delay, passes, if_true]
      exact .inl ⟨_, rfl⟩
    · rename_i f failing
      simp only [failing, passes]
      exact .inr rfl
    · cases passes
  · simp only [step, asks]
    exact .inr rfl

end Performer

/-! ## Ticks -/

namespace Scene

variable {s : Scene} {t : Ticker}

/-- Chance has a say only when a tick is due. -/
theorem stopsBefore_iff : s.stopsBefore t = true ↔
    s.isCancelled = true ∧ (t.due ≤ s.time → s.stage.chance.tick = false) := by
  cases ticks : s.stage.chance.tick <;> simp [stopsBefore, ticks]

theorem stopsBefore_of_going (going : s.isCancelled = false) (t : Ticker) :
    s.stopsBefore t = false := by
  simp [stopsBefore, going]

/-- A tick that is heard is due, also if it is heard before the cancellation. -/
theorem tick_due {σ : Type} {time : Nat} (stays : s.stopsBefore t ≠ true)
    (due : (Worker.waiting t : Worker σ).due s = some time) (past : time ≤ s.time) :
    t.due ≤ s.time := by
  by_cases cancelled : s.isCancelled = true
  · apply Decidable.byContradiction
    exact fun early => stays (stopsBefore_iff.mpr ⟨cancelled, fun due => absurd due early⟩)
  · simp only [Worker.due, if_neg cancelled, Option.some.injEq] at due
    omega

end Scene

/-- A worker that waits ends, fails or begins a cycle. -/
theorem Worker.step_waiting {σ : Type} [Cycle σ] (pace : Pace) (t : Ticker) (s : Scene) :
    (Worker.waiting t : Worker σ).step pace s = (.ended, s) ∨
      (Worker.waiting t : Worker σ).step pace s = (.failed, s) ∨
      s.stopsBefore t ≠ true ∧ t.isLast pace.uptime s.time ≠ true ∧
        (Worker.waiting t : Worker σ).step pace s =
          (.cycling (t.heard s.time) (.start (Cycle.start s.stage.clock pace.interval)), s) := by
  simp only [step]
  split
  · exact .inl rfl
  · split
    · exact .inr (.inl rfl)
    · exact .inr (.inr ⟨‹_›, ‹_›, rfl⟩)

/-- A cycle that is neither over nor broken off goes on. -/
theorem Worker.step_active {σ : Type} [Cycle σ] {pace : Pace} {t : Ticker} {p : Performer σ}
    {s : Scene} (active : (p.step (some pace.operationTimeout) s).1.Active) :
    (Worker.cycling t p).step pace s =
      (.cycling t (p.step (some pace.operationTimeout) s).1,
        (p.step (some pace.operationTimeout) s).2) := by
  simp only [step]
  rcases active with acting | ⟨due, cut, delayed⟩
  · rw [acting]
  · rw [delayed]

end Agenda.Rehearsal
