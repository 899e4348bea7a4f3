import Agenda.Proofs.Scheduler.Performer
import Mathlib.Data.List.Chain

/-! Runs of a scheduler among others, who change what is shared as they like. Time passes, but
nobody of the scheduler is kept waiting when something of it is due. -/
namespace Agenda.Rehearsal

/-- A dispatch cycle, seen from outside. Times are in milliseconds. -/
structure Round where
  begun : Nat
  window : TimeSpan
  /-- The calls that it has made, the last first. -/
  calls : List Call
  stop : Option Nat

/-- What a step of the dispatcher adds to the cycles, which are listed the last first. -/
def chronicle (time : Nat) : Worker Dispatch → Worker Dispatch → List Round → List Round
  | .waiting _, .cycling _ ⟨.query window, _⟩, rounds => ⟨time, window, [], none⟩ :: rounds
  | .cycling _ _, .waiting _, r :: earlier => { r with stop := some time } :: earlier
  | .cycling _ p, _, r :: earlier => { r with calls := p.issued?.toList ++ r.calls } :: earlier
  | _, _, rounds => rounds

/-- A scheduler, what it shares with others, and the dispatch cycles that it has gone through. -/
structure Course where
  scheduler : Scheduler
  stage : Stage
  rounds : List Round

namespace Course

def start (seat : Seat) (stage : Stage) : Course := ⟨.new seat, stage, []⟩

def dispatch (pace : Pace) (x : Course) : Course where
  scheduler := (x.scheduler.stepDispatcher pace x.stage).1
  stage := (x.scheduler.stepDispatcher pace x.stage).2
  rounds := chronicle x.stage.time x.scheduler.dispatcher
    (x.scheduler.stepDispatcher pace x.stage).1.dispatcher x.rounds

def cleanup (pace : Pace) (x : Course) : Course where
  scheduler := (x.scheduler.stepCleaner pace x.stage).1
  stage := (x.scheduler.stepCleaner pace x.stage).2
  rounds := x.rounds

def supervise (pace : Pace) (x : Course) : Course where
  scheduler := (x.scheduler.step pace x.stage).1
  stage := (x.scheduler.step pace x.stage).2
  rounds := x.rounds

/-- Something of the scheduler is due at a time. -/
def Due (x : Course) (time : Nat) : Prop :=
  x.scheduler.dispatcherDue x.stage = some time ∨ x.scheduler.cleanerDue x.stage = some time ∨
    x.scheduler.due x.stage = some time

/-- The others may do anything with what is shared: write events, publish, make calls slow or let
them fail, cancel. Chance may decide otherwise too. Only the clock runs on evenly. -/
inductive Step (pace : Pace) : Course → Course → Prop
  | dispatcher {x : Course} {t : Nat} : x.scheduler.dispatcherDue x.stage = some t →
      t ≤ x.stage.time → Step pace x (x.dispatch pace)
  | cleaner {x : Course} {t : Nat} : x.scheduler.cleanerDue x.stage = some t →
      t ≤ x.stage.time → Step pace x (x.cleanup pace)
  | supervisor {x : Course} {t : Nat} : x.scheduler.due x.stage = some t →
      t ≤ x.stage.time → Step pace x (x.supervise pace)
  | others {x : Course} (stage : Stage) (clock : stage.base = x.stage.base)
      (later : x.stage.time ≤ stage.time)
      (punctual : ∀ t, x.Due t → stage.time ≤ max t x.stage.time) : Step pace x { x with stage }

/-- The runs in which something holds of what is shared all the time. -/
inductive Run (pace : Pace) (holds : Stage → Prop) : Course → Prop
  | start (seat : Seat) {stage : Stage} : holds stage → Run pace holds (.start seat stage)
  | step {x y : Course} : Run pace holds x → Step pace x y → holds y.stage → Run pace holds y

theorem Run.now {pace : Pace} {holds : Stage → Prop} {x : Course} (h : Run pace holds x) :
    holds x.stage := by
  cases h <;> assumption

theorem Run.weaken {pace : Pace} {holds holds' : Stage → Prop} {x : Course}
    (h : Run pace holds x) (weaker : ∀ s, holds s → holds' s) : Run pace holds' x := by
  induction h with
  | start seat stage => exact .start seat (weaker _ stage)
  | step _ step now ih => exact .step ih step (weaker _ now)

/-- Who acts next in a run that nobody else takes part in, or until when everybody waits. -/
inductive Cue
  | dispatcher
  | cleaner
  | supervisor
  | wait (time : Nat)
deriving DecidableEq

/-- What a cue leads to, if it comes at the right time. -/
def cue? (pace : Pace) (x : Course) : Cue → Option Course
  | .dispatcher =>
    if (x.scheduler.dispatcherDue x.stage).any (· ≤ x.stage.time) then some (x.dispatch pace)
    else none
  | .cleaner =>
    if (x.scheduler.cleanerDue x.stage).any (· ≤ x.stage.time) then some (x.cleanup pace) else none
  | .supervisor =>
    if (x.scheduler.due x.stage).any (· ≤ x.stage.time) then some (x.supervise pace) else none
  | .wait time =>
    if x.stage.time ≤ time ∧ (x.scheduler.dispatcherDue x.stage).all (time ≤ ·) = true ∧
        (x.scheduler.cleanerDue x.stage).all (time ≤ ·) = true ∧
        (x.scheduler.due x.stage).all (time ≤ ·) = true then
      some { x with stage := { x.stage with time } }
    else none

def follow? (pace : Pace) (check : Stage → Bool) : Course → List Cue → Option Course
  | x, [] => some x
  | x, c :: later => (x.cue? pace c).bind fun y =>
    if check y.stage = true then y.follow? pace check later else none

/-- The cue comes at the right time. -/
def Apt (x : Course) : Cue → Prop
  | .dispatcher => ∃ t, x.scheduler.dispatcherDue x.stage = some t ∧ t ≤ x.stage.time
  | .cleaner => ∃ t, x.scheduler.cleanerDue x.stage = some t ∧ t ≤ x.stage.time
  | .supervisor => ∃ t, x.scheduler.due x.stage = some t ∧ t ≤ x.stage.time
  | .wait time => x.stage.time ≤ time ∧ ∀ t, x.Due t → time ≤ t

theorem apt_of_cue {pace : Pace} {x y : Course} {c : Cue} (h : x.cue? pace c = some y) :
    x.Apt c := by
  cases c with
  | dispatcher | cleaner | supervisor =>
    simp only [cue?, Option.ite_none_right_eq_some, Option.any_eq_true, decide_eq_true_eq] at h
    exact h.1
  | wait time =>
    simp only [cue?, Option.ite_none_right_eq_some] at h
    obtain ⟨⟨later, dispatcher, cleaner, supervisor⟩, -⟩ := h
    refine ⟨later, ?_⟩
    rintro t (due | due | due)
    · simpa [due] using dispatcher
    · simpa [due] using cleaner
    · simpa [due] using supervisor

theorem step_of_cue {pace : Pace} {x y : Course} {c : Cue} (h : x.cue? pace c = some y) :
    Step pace x y := by
  have apt := apt_of_cue h
  cases c with
  | dispatcher =>
    obtain ⟨t, due, past⟩ := apt
    exact Option.some.inj (Option.ite_none_right_eq_some.mp h).2 ▸ .dispatcher due past
  | cleaner =>
    obtain ⟨t, due, past⟩ := apt
    exact Option.some.inj (Option.ite_none_right_eq_some.mp h).2 ▸ .cleaner due past
  | supervisor =>
    obtain ⟨t, due, past⟩ := apt
    exact Option.some.inj (Option.ite_none_right_eq_some.mp h).2 ▸ .supervisor due past
  | wait time =>
    obtain ⟨later, waits⟩ := apt
    exact Option.some.inj (Option.ite_none_right_eq_some.mp h).2 ▸
      .others _ rfl later fun t due => Nat.le_trans (waits t due) (Nat.le_max_left _ _)

theorem Run.follow {pace : Pace} {holds : Stage → Prop} {check : Stage → Bool}
    (sound : ∀ s, check s = true → holds s) {x y : Course} {cues : List Cue}
    (h : Run pace holds x) (followed : x.follow? pace check cues = some y) : Run pace holds y := by
  induction cues generalizing x with
  | nil => exact Option.some.inj followed ▸ h
  | cons c later ih =>
    obtain ⟨z, next, rest⟩ := Option.bind_eq_some_iff.mp followed
    split at rest
    · exact ih (.step h (step_of_cue next) (sound _ ‹_›)) rest
    · cases rest

end Course
end Agenda.Rehearsal
