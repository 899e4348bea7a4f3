import Agenda.Proofs.Scheduler.Performer
import Agenda.Proofs.Service

/-! What a step of a performer comes to: it waits, its call is carried out, or the call fails and
nothing is changed. -/
namespace Agenda.Rehearsal

/-- Nothing that is shared has changed, and nothing in the seat. -/
structure Untouched (s s' : Scene) : Prop where
  seat : s'.seat = s.seat
  service : s'.stage.service = s.stage.service

theorem Untouched.log (s : Scene) (notices : List Notice) : Untouched s (s.log notices) := by
  refine ⟨rfl, ?_⟩
  simp only [Scene.log, Stage.log]
  generalize s.stage = stage
  induction notices generalizing stage with
  | nil => rfl
  | cons n rest ih => exact ih (stage.note (.notice n))

/-- Every answer that a planned failure gives is an error. -/
theorem Failure.answer?_failed {f : Failure} {c : Call} {a : c.Answer} (h : f.answer? c = some a) :
    ∃ storage broker, a = c.failed storage broker := by
  cases c with
  | insert | save | delete | record | findByStartDate | findByRemindIn =>
    obtain ⟨error, -, rfl⟩ := Option.map_eq_some_iff.mp h
    exact ⟨error, .channelNotOpen, rfl⟩
  | produce | consume =>
    obtain ⟨error, -, rfl⟩ := Option.map_eq_some_iff.mp h
    exact ⟨.empty, error, rfl⟩

namespace Performer

variable {σ : Type} [Machine σ] {p : Performer σ} {c : Call}
  {next : c.Answer → σ × List Notice} {limit : Duration}

/-- It has made its call or is about to, and that call goes through. -/
def Succeeds (limit : Duration) (plan : FaultPlan) (p : Performer σ) (c : Call) : Prop :=
  p.Unhindered ∧ Passes limit plan c

/-- All that a call can come to. It waits, it is carried out, or it fails. -/
inductive Outcome (limit : Duration) (p : Performer σ) (c : Call)
    (next : c.Answer → σ × List Notice) (s : Scene) : Performer σ × Scene → Prop
  | waits {p' : Performer σ} {s' : Scene} : p'.state = p.state → Untouched s s' →
      (p.Active → p'.phase = .crashed ∨ p'.Active) →
      (p.Succeeds limit s.stage.faults c → p'.Unhindered) → Outcome limit p c next s (p', s')
  | served {s' : Scene} : (s'.seat.endpoint, s'.stage.service) =
      (s.stage.service.answer s.seat.endpoint c).2 →
      Outcome limit p c next s
        (.start (next (s.stage.service.answer s.seat.endpoint c).1).1, s')
  | failed {s' : Scene} (storage : StorageError) (broker : BrokerError) : Untouched s s' →
      ¬ p.Succeeds limit s.stage.faults c →
      Outcome limit p c next s (.start (next (c.failed storage broker)).1, s')

omit [Machine σ] in
theorem outcome_answer {s s' : Scene} (same : Untouched s s') :
    Outcome limit p c next s (proceed (next (s'.answer c).1) (s'.answer c).2) := by
  have answer : (s'.answer c).1 = (s.stage.service.answer s.seat.endpoint c).1 := by
    simp only [Scene.answer, same.seat, same.service]
  simp only [proceed, answer]
  apply Outcome.served
  have logged := Untouched.log (s'.answer c).2
    (next (s.stage.service.answer s.seat.endpoint c).1).2
  rw [logged.seat, logged.service]
  simp only [Scene.answer, Scene.withService, same.seat, same.service]

omit [Machine σ] in
theorem outcome_failed {s s' : Scene} (same : Untouched s s') {a : c.Answer}
    (failed : ∃ storage broker, a = c.failed storage broker)
    (hindered : ¬ p.Succeeds limit s.stage.faults c) :
    Outcome limit p c next s (proceed (next a) s') := by
  obtain ⟨storage, broker, rfl⟩ := failed
  have logged := Untouched.log s' (next (c.failed storage broker)).2
  exact .failed storage broker ⟨logged.seat.trans same.seat, logged.service.trans same.service⟩
    hindered

omit [Machine σ] in
theorem outcome_attempt (s : Scene) :
    Outcome limit p c next s (p.attempt (some limit) c next s) := by
  have noted : Untouched s (s.note (.call c)) := ⟨rfl, rfl⟩
  have faults : (s.note (.call c)).stage.faults = s.stage.faults := rfl
  simp only [attempt, faults]
  cases planned : s.stage.faults.find? c with
  | none => exact outcome_answer noted
  | some fault =>
    have passes : p.Succeeds limit s.stage.faults c → Passes limit s.stage.faults c := And.right
    unfold Passes at passes
    rw [planned] at passes
    cases fault with
    | hang =>
      exact .waits rfl noted (fun _ => .inr (.inr ⟨_, _, rfl⟩)) fun succeeds =>
        (passes succeeds).elim
    | crash => exact .waits rfl noted (fun _ => .inl rfl) fun succeeds => (passes succeeds).elim
    | slow milliseconds =>
      refine .waits rfl noted (fun _ => .inr ?_) fun succeeds => ?_
      · simp only [delay]
        split <;> exact .inr ⟨_, _, rfl⟩
      have brief : milliseconds ≤ limit.milliseconds := passes succeeds
      simp only [delay, brief, if_true]
      exact .inr ⟨_, rfl⟩
    | failing f =>
      cases answer : f.answer? c with
      | none =>
        simp only [answer]
        exact outcome_answer noted
      | some a =>
        simp only [answer]
        refine outcome_failed noted (Failure.answer?_failed answer) fun succeeds => ?_
        have unanswered : f.answer? c = none := passes succeeds
        rw [answer] at unanswered
        cases unanswered

theorem step_outcome (asks : Machine.move p.state = .ask c next) (s : Scene) :
    Outcome limit p c next s (p.step (some limit) s) := by
  have idle : Untouched s s := ⟨rfl, rfl⟩
  have unhindered : p.Succeeds limit s.stage.faults c → p.Unhindered := And.left
  simp only [step, asks]
  cases phase : p.phase with
  | acting => exact outcome_attempt s
  | delayed due cut =>
    cases cut with
    | false => exact outcome_answer idle
    | true =>
      refine outcome_failed idle ⟨_, _, c.timedOut_eq_failed limit⟩ fun succeeds => ?_
      rcases unhindered succeeds with acting | ⟨later, delayed⟩
      · rw [phase] at acting
        cases acting
      · rw [phase] at delayed
        cases delayed
  | asleep | stuck | crashed | halted => exact .waits rfl idle .inr unhindered

/-- A call that goes to the storage leaves the endpoint as it is. -/
theorem step_endpoint (asks : Machine.move p.state = .ask c next) (s : Scene)
    (stays : (s.stage.service.answer s.seat.endpoint c).2.1 = s.seat.endpoint) :
    (p.step (some limit) s).2.seat.endpoint = s.seat.endpoint := by
  have outcome : p.Outcome limit c next s (p.step (some limit) s) := step_outcome asks s
  generalize p.step (some limit) s = q at outcome
  cases outcome with
  | waits _ same => exact congrArg _ same.seat
  | served after => exact (Prod.mk.inj after).1.trans stays
  | failed _ _ same => exact congrArg _ same.seat

end Performer

/-- Cleanup cycles do not use the channel. -/
theorem Performer.cleanup_endpoint (p : Performer Cleanup) (limit : Duration) (s : Scene) :
    (p.step (some limit) s).2.seat.endpoint = s.seat.endpoint := by
  obtain ⟨state, phase⟩ := p
  cases state with
  | query window => exact step_endpoint rfl s rfl
  | delete e later count => exact step_endpoint rfl s rfl
  | finished => rfl

theorem Worker.cleaner_endpoint (pace : Pace) (w : Worker Cleanup) (s : Scene) :
    (w.step pace s).2.seat.endpoint = s.seat.endpoint := by
  unfold step
  split
  · split <;> rfl
  · split
    · rfl
    · split <;> rfl
  · rename_i t p
    have same := p.cleanup_endpoint pace.operationTimeout s
    simp only
    split <;> exact same
  · rfl
  · rfl

end Agenda.Rehearsal
