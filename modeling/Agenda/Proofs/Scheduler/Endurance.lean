import Agenda.Config
import Agenda.Proofs.Scheduler.Supervision
import Agenda.Proofs.Scheduler.Tiling

/-! How long the workers of a scheduler last. A worker sets its ticker when it begins, and anew when
it hears a tick too late. It fails if the machine cannot tell the instant of the next tick, and for
nothing else while no call breaks it off. -/
namespace Agenda.Rehearsal

/-! ## Settings -/

/-- The pace that is set in the environment. `uptime` is how many seconds the machine was on when
the scheduler was started. -/
def Pace.ofEnvironment (env : Environment) (uptime : Nat) : Pace where
  interval := (Config.ofEnvironment env).1.schedulerInterval
  operationTimeout := (Config.ofEnvironment env).1.operationTimeout
  uptime := uptime

/-- Whatever is set, the interval is a second or longer. -/
theorem Pace.interval_pos (env : Environment) (uptime : Nat) :
    0 < (Pace.ofEnvironment env uptime).interval.milliseconds := by
  simp only [ofEnvironment, Config.ofEnvironment, Duration.ofSeconds]
  omega

/-- The machine can tell the instant that is an interval after a time. -/
def Pace.Reaches (pace : Pace) (time : Nat) : Prop :=
  pace.uptime + (time + pace.interval.milliseconds) / 1000 ≤ Ticker.horizon

theorem Pace.Reaches.earlier {pace : Pace} {a b : Nat} (h : pace.Reaches b) (le : a ≤ b) :
    pace.Reaches a := by
  unfold Pace.Reaches at *
  omega

theorem start?_eq_none_iff {pace : Pace} (positive : 0 < pace.interval.milliseconds) (now : Nat) :
    Ticker.start? pace.uptime now pace.interval = none ↔ ¬ pace.Reaches now := by
  unfold Ticker.start? Pace.Reaches
  rw [if_neg (by omega)]
  split
  · simp only [true_iff]
    omega
  · simp only [reduceCtorEq, false_iff]
    omega

theorem isLast_iff {pace : Pace} {t : Ticker} (period : t.period = pace.interval.milliseconds)
    (now : Nat) :
    t.isLast pace.uptime now = true ↔ t.due + Ticker.tolerance < now ∧ ¬ pace.Reaches now := by
  unfold Ticker.isLast Pace.Reaches
  rw [decide_eq_true_eq, period]
  omega

/-! ## What is said at the end -/

/-- It is said that a worker has failed, or that the scheduler has stopped. -/
def Incident.isFarewell : Incident → Bool
  | .notice .dispatchWorkerFailed | .notice .cleanupWorkerFailed | .notice .schedulerStopped => true
  | _ => false

/-- Nothing of that is said from one stage to another. -/
def Stage.Discreet (s s' : Stage) : Prop :=
  ∀ e ∈ s'.entries, e.incident.isFarewell = true → e ∈ s.entries

namespace Stage.Discreet

theorem refl (s : Stage) : s.Discreet s := fun _ member _ => member

theorem trans {a b c : Stage} (h : a.Discreet b) (h' : b.Discreet c) : a.Discreet c :=
  fun e member farewell => h e (h' e member farewell) farewell

theorem note (s : Stage) {i : Incident} (other : i.isFarewell = false) : s.Discreet (s.note i) := by
  intro e member farewell
  rcases List.mem_cons.mp member with rfl | before
  · rw [other] at farewell
    cases farewell
  · exact before

theorem log (s : Stage) {notices : List Notice}
    (others : ∀ n ∈ notices, (Incident.notice n).isFarewell = false) :
    s.Discreet (s.log notices) := by
  unfold Stage.log
  induction notices generalizing s with
  | nil => exact refl s
  | cons n rest ih =>
    have first := note s (others n (.head _))
    exact first.trans (ih _ fun m member => others m (.tail _ member))

end Stage.Discreet

/-- What a machine logs after its calls is no farewell. -/
def Reserved (σ : Type) [Machine σ] : Prop :=
  ∀ (state : σ) (c : Call) (next : c.Answer → σ × List Notice) (a : c.Answer),
    Machine.move state = .ask c next → ∀ n ∈ (next a).2, (Incident.notice n).isFarewell = false

theorem dispatch_reserved : Reserved Dispatch := by
  intro state c next a asks n member
  cases state with
  | query window =>
    cases asks
    rcases a with e | due
    · cases e <;> (cases List.mem_singleton.mp member; rfl)
    · cases member
  | openChannel due =>
    cases asks
    cases a with
    | ok => cases member
    | error e => cases List.mem_singleton.mp member; rfl
  | publish event later count =>
    cases asks
    cases a with
    | ok => cases member
    | error e => cases List.mem_singleton.mp member; rfl
  | closeChannel count =>
    cases asks
    cases a with
    | ok => cases List.mem_singleton.mp member; rfl
    | error e =>
      rcases List.mem_pair.mp member with rfl | rfl <;> rfl
  | finished => cases asks

theorem Cleanup.proceed_reserved {count : Nat} {notices : List Notice} {later : List Event}
    (others : ∀ n ∈ notices, (Incident.notice n).isFarewell = false) :
    ∀ n ∈ (Cleanup.proceed count notices later).2, (Incident.notice n).isFarewell = false := by
  cases later with
  | cons e rest => exact others
  | nil =>
    intro n member
    rcases List.mem_append.mp member with before | last
    · exact others n before
    · cases List.mem_singleton.mp last
      rfl

theorem cleanup_reserved : Reserved Cleanup := by
  intro state c next a asks
  cases state with
  | query window =>
    cases asks
    rcases a with e | expired
    · intro n member
      cases e <;> (cases List.mem_singleton.mp member; rfl)
    · exact Cleanup.proceed_reserved fun n none => nomatch none
  | delete event later count =>
    cases asks
    rcases a with e | _
    · cases e <;>
        exact Cleanup.proceed_reserved fun n member => by cases List.mem_singleton.mp member; rfl
    · exact Cleanup.proceed_reserved fun n none => nomatch none
  | finished => cases asks

/-! ## One step -/

section Performers

variable {σ : Type} [Machine σ]

/-- A performer that does not listen says no farewell, and it keeps its token. -/
theorem Performer.step_discreet (deaf : Deaf σ) (reserved : Reserved σ) (limit : Option Duration)
    (p : Performer σ) (s : Scene) : s.stage.Discreet (p.step limit s).2.stage := by
  unfold Performer.step
  split
  · exact .refl _
  · rename_i c next asks
    have goes_on (a : c.Answer) (s' : Scene) :
        s'.stage.Discreet (Performer.proceed (next a) s').2.stage := .log _ (reserved _ _ _ a asks)
    have called : s.stage.Discreet (s.note (.call c)).stage := .note _ rfl
    split
    · unfold Performer.attempt
      simp only
      split
      · exact called.trans (goes_on _ _)
      · exact called
      · exact called
      · exact called
      · split
        · exact called.trans (goes_on _ _)
        · exact called.trans (goes_on _ _)
    · split
      · exact goes_on _ _
      · exact goes_on _ _
    · exact .refl _
  · exact absurd ‹_› (deaf _ _)

theorem Performer.step_token (deaf : Deaf σ) (limit : Option Duration) (p : Performer σ)
    (s : Scene) : (p.step limit s).2.seat.token = s.seat.token := by
  unfold Performer.step
  split
  · rfl
  · split
    · unfold Performer.attempt
      simp only
      split
      · rfl
      · rfl
      · rfl
      · rfl
      · split <;> rfl
    · split <;> rfl
    · rfl
  · exact absurd ‹_› (deaf _ _)

/-- A performer whose calls do not break off stays whole. -/
theorem Performer.step_uncrashed (deaf : Deaf σ) (limit : Option Duration) {p : Performer σ}
    {s : Scene} (whole : p.phase ≠ .crashed)
    (unbroken : ∀ c, s.stage.faults.find? c ≠ some .crash) :
    (p.step limit s).1.phase ≠ .crashed := by
  unfold Performer.step
  split
  · exact Phase.noConfusion
  · rename_i c next asks
    split
    · have faults : (s.note (.call c)).stage.faults = s.stage.faults := rfl
      simp only [Performer.attempt, faults]
      cases planned : s.stage.faults.find? c with
      | none => exact Phase.noConfusion
      | some fault =>
        cases fault with
        | hang => cases limit <;> exact Phase.noConfusion
        | slow milliseconds =>
          simp only [Performer.delay]
          split
          · exact Phase.noConfusion
          · split <;> exact Phase.noConfusion
        | crash => exact absurd planned (unbroken c)
        | failing f =>
          simp only
          split <;> exact Phase.noConfusion
    · split <;> exact Phase.noConfusion
    · exact whole
  · exact absurd ‹_› (deaf _ _)

end Performers

namespace Worker

variable {σ : Type} [Cycle σ] {pace : Pace} {w : Worker σ} {s : Scene}

theorem step_discreet (deaf : Deaf σ) (reserved : Reserved σ) (pace : Pace) (w : Worker σ)
    (s : Scene) : s.stage.Discreet (w.step pace s).2.stage := by
  cases w with
  | fresh =>
    simp only [step]
    split <;> exact .refl _
  | waiting t =>
    simp only [step]
    split
    · exact .refl _
    · split <;> exact .refl _
  | cycling t p =>
    have said := p.step_discreet deaf reserved (some pace.operationTimeout) s
    simp only [step]
    split <;> exact said
  | ended | failed => exact .refl _

theorem step_token (deaf : Deaf σ) (pace : Pace) (w : Worker σ) (s : Scene) :
    (w.step pace s).2.seat.token = s.seat.token := by
  cases w with
  | fresh =>
    simp only [step]
    split <;> rfl
  | waiting t =>
    simp only [step]
    split
    · rfl
    · split <;> rfl
  | cycling t p =>
    have same := p.step_token deaf (some pace.operationTimeout) s
    simp only [step]
    split <;> exact same
  | ended | failed => rfl

/-- It is about to set its ticker from the present time: it begins, or it hears a tick too late. -/
def Resets (w : Worker σ) (time : Nat) : Prop :=
  match w with
  | .fresh => True
  | .waiting t => t.due + Ticker.tolerance < time
  | .cycling _ _ | .ended | .failed => False

/-- How a worker stands that was started at `origin` and never cancelled. -/
def Enduring (pace : Pace) (origin time : Nat) : Worker σ → Prop
  | .fresh => True
  | .waiting t => t.period = pace.interval.milliseconds ∧ pace.Reaches origin
  | .cycling t p => t.period = pace.interval.milliseconds ∧ pace.Reaches origin ∧ p.phase ≠ .crashed
  | .ended => False
  | .failed => ¬ pace.Reaches time

variable {origin : Nat}

omit [Cycle σ] in
/-- Time that passes does not bring back what is out of reach. -/
theorem Enduring.pass {time : Nat} (h : w.Enduring pace origin s.time) (later : s.time ≤ time) :
    w.Enduring pace origin time := by
  cases w with
  | fresh | waiting | cycling | ended => exact h
  | failed => exact fun reaches => h (reaches.earlier later)

omit [Cycle σ] in
/-- A worker whose first tick is out of reach can only fail. -/
theorem Enduring.isOver_of_out {time : Nat} (h : w.Enduring pace origin time)
    (out : ¬ pace.Reaches origin) (started : w ≠ .fresh) : w.isOver = true := by
  cases w with
  | fresh => exact absurd rfl started
  | waiting t => exact absurd h.2 out
  | cycling t p => exact absurd h.2.1 out
  | ended | failed => rfl

omit [Cycle σ] in
theorem Enduring.running {time : Nat} (h : w.Enduring pace origin time)
    (reaches : pace.Reaches time) : w.isOver = false := by
  cases w with
  | fresh | waiting | cycling => rfl
  | ended => exact h.elim
  | failed => exact absurd reaches h

section Going

variable (positive : 0 < pace.interval.milliseconds) (deaf : Deaf σ)
  (enduring : w.Enduring pace origin s.time) (going : s.isCancelled = false)
  (unbroken : ∀ c, s.stage.faults.find? c ≠ some .crash)
include positive deaf enduring going unbroken

/-- A worker that is not cancelled comes to its end in a step if and only if it has to set its ticker
to an instant out of reach. -/
theorem step_over_iff (running : w.isOver = false) :
    (w.step pace s).1.isOver = true ↔ w.Resets s.time ∧ ¬ pace.Reaches s.time := by
  cases w with
  | fresh =>
    have sets := start?_eq_none_iff positive s.time
    simp only [step, Resets, true_and, ← sets]
    cases Ticker.start? pace.uptime s.time pace.interval with
    | none => simp [isOver]
    | some t => simp [isOver]
  | waiting t =>
    have last := isLast_iff enduring.1 s.time
    simp only [step, s.stopsBefore_of_going going t, Resets, ← last]
    cases t.isLast pace.uptime s.time with
    | true => simp [isOver]
    | false => simp [isOver]
  | cycling t p =>
    have whole := p.step_uncrashed deaf (some pace.operationTimeout) enduring.2.2 unbroken
    simp only [step, Resets, false_and, iff_false]
    split
    · exact Bool.false_ne_true
    · exact absurd ‹_› whole
    · exact Bool.false_ne_true
  | ended | failed => cases running

theorem Enduring.step (later : origin ≤ s.time) :
    (w.step pace s).1.Enduring pace origin s.time := by
  cases w with
  | fresh =>
    have sets := start?_eq_none_iff positive s.time
    simp only [Worker.step]
    cases set_up : Ticker.start? pace.uptime s.time pace.interval with
    | none => exact sets.mp set_up
    | some t =>
      have reaches : pace.Reaches s.time := by
        by_contra out
        rw [sets.mpr out] at set_up
        cases set_up
      obtain rfl := start?_eq set_up
      exact ⟨rfl, reaches.earlier later⟩
  | waiting t =>
    obtain ⟨period, reaches⟩ := enduring
    have last := isLast_iff period s.time
    simp only [Worker.step, s.stopsBefore_of_going going t]
    cases missed : t.isLast pace.uptime s.time with
    | true => exact (last.mp missed).2
    | false => exact ⟨period, reaches, Phase.noConfusion⟩
  | cycling t p =>
    obtain ⟨period, reaches, whole⟩ := enduring
    have still := p.step_uncrashed deaf (some pace.operationTimeout) whole unbroken
    simp only [Worker.step]
    split
    · exact ⟨period, reaches⟩
    · exact absurd ‹_› still
    · exact ⟨period, reaches, still⟩
  | ended => exact enduring
  | failed => exact enduring

end Going
end Worker

/-! ## Whole runs -/

/-- Nobody has cancelled who has the seat, and no call breaks off who makes it. -/
structure Wanted (seat : Seat) (s : Stage) : Prop where
  uncancelled : seat.token ∉ s.cancelled
  unbroken : ∀ c, s.faults.find? c ≠ some .crash

/-- How a scheduler stands that was started at `origin` and is not cancelled. -/
structure Lasting (pace : Pace) (seat : Seat) (origin : Nat) (x : Course) : Prop where
  token : x.scheduler.seat.token = seat.token
  later : origin ≤ x.stage.time
  dispatcher : x.scheduler.dispatcher.Enduring pace origin x.stage.time
  cleaner : x.scheduler.cleaner.Enduring pace origin x.stage.time
  ordered : x.Ordered
  /-- Nobody waits before the tickers are set up, or when that was out of reach. -/
  prompt : x.stage.time = origin ∨
    x.scheduler.dispatcher ≠ .fresh ∧ x.scheduler.cleaner ≠ .fresh ∧
      (¬ pace.Reaches origin → x.scheduler.supervision ≠ .watching)

theorem Worker.step_started {σ : Type} [Cycle σ] (pace : Pace) (w : Worker σ) (s : Scene) :
    (w.step pace s).1 ≠ .fresh := by
  intro fresh
  cases w with
  | fresh =>
    simp only [step] at fresh
    split at fresh <;> cases fresh
  | waiting t =>
    simp only [step] at fresh
    split at fresh
    · cases fresh
    · split at fresh <;> cases fresh
  | cycling t p =>
    simp only [step] at fresh
    split at fresh <;> cases fresh
  | ended | failed => cases fresh

namespace Scheduler

variable (pace : Pace) (x : Scheduler) (s : Stage)

theorem step_token : (x.step pace s).1.seat.token = x.seat.token := by
  unfold Scheduler.step
  split
  · rfl
  · rfl
  · exact Performer.step_token shutdown_deaf _ _ _
  · rfl
  · rfl

end Scheduler

namespace Lasting

variable {pace : Pace} {seat : Seat} {origin : Nat} {x : Course}

theorem start (pace : Pace) (seat : Seat) (stage : Stage) :
    Lasting pace seat stage.time (.start seat stage) where
  token := rfl
  later := Nat.le_refl _
  dispatcher := trivial
  cleaner := trivial
  ordered := .start seat stage
  prompt := .inl rfl

theorem going (h : Lasting pace seat origin x) (wanted : Wanted seat x.stage) :
    (x.scheduler.scene x.stage).isCancelled = false := by
  have kept := wanted.uncancelled
  rw [← h.token] at kept
  simpa [Scene.isCancelled, Scheduler.scene] using kept

section Steps

variable (h : Lasting pace seat origin x) (wanted : Wanted seat x.stage)
  (positive : 0 < pace.interval.milliseconds)
include h wanted positive

theorem dispatch {t : Nat} (due : x.scheduler.dispatcherDue x.stage = some t)
    (past : t ≤ x.stage.time) : Lasting pace seat origin (x.dispatch pace) := by
  have time : (x.dispatch pace).stage.time = x.stage.time := (SameTime.worker _ _ _).1
  constructor
  · exact (Worker.step_token dispatch_deaf _ _ _).trans h.token
  · exact time ▸ h.later
  · rw [time]
    exact h.dispatcher.step positive dispatch_deaf (s := x.scheduler.scene x.stage)
      (h.going wanted) wanted.unbroken h.later
  · rw [time]
    exact h.cleaner
  · exact h.ordered.acts (.dispatcher due past)
  · rw [time]
    exact h.prompt.imp_right fun ⟨_, cleaner, watched⟩ =>
      ⟨Worker.step_started _ _ _, cleaner, watched⟩

theorem cleanup {t : Nat} (due : x.scheduler.cleanerDue x.stage = some t)
    (past : t ≤ x.stage.time) : Lasting pace seat origin (x.cleanup pace) := by
  have time : (x.cleanup pace).stage.time = x.stage.time := (SameTime.worker _ _ _).1
  constructor
  · exact (Worker.step_token cleanup_deaf _ _ _).trans h.token
  · exact time ▸ h.later
  · rw [time]
    exact h.dispatcher
  · rw [time]
    exact h.cleaner.step positive cleanup_deaf (s := x.scheduler.scene x.stage)
      (h.going wanted) wanted.unbroken h.later
  · exact h.ordered.acts (.cleaner due past)
  · rw [time]
    exact h.prompt.imp_right fun ⟨dispatcher, _, watched⟩ =>
      ⟨dispatcher, Worker.step_started _ _ _, watched⟩

end Steps

theorem supervise (h : Lasting pace seat origin x) {t : Nat}
    (due : x.scheduler.due x.stage = some t) (past : t ≤ x.stage.time) :
    Lasting pace seat origin (x.supervise pace) := by
  have time : (x.supervise pace).stage.time = x.stage.time := (SameTime.scheduler _ _ _).1
  have dispatcher : (x.supervise pace).scheduler.dispatcher = x.scheduler.dispatcher :=
    Timed.dispatcher_step _ _
  have cleaner : (x.supervise pace).scheduler.cleaner = x.scheduler.cleaner :=
    Disciplined.cleaner_step _ _
  constructor
  · exact (Scheduler.step_token _ _ _).trans h.token
  · exact time ▸ h.later
  · rw [dispatcher, time]
    exact h.dispatcher
  · rw [cleaner, time]
    exact h.cleaner
  · exact h.ordered.acts (.supervisor due past)
  · rw [dispatcher, cleaner, time]
    refine h.prompt.imp_right fun ⟨started, both, _⟩ => ⟨started, both, fun _ watching => ?_⟩
    exact started (h.ordered.fresh (Scheduler.fresh_of_watching _ _ _ watching)).1

/-- Time passes only when the tickers are set up, and not while there is something to report. -/
theorem others (h : Lasting pace seat origin x) {stage : Stage}
    (later : x.stage.time ≤ stage.time)
    (punctual : ∀ t, x.Due t → stage.time ≤ max t x.stage.time) :
    Lasting pace seat origin { x with stage } := by
  refine ⟨h.token, Nat.le_trans h.later later, h.dispatcher.pass (s := ⟨seat, x.stage⟩) later,
    h.cleaner.pass (s := ⟨seat, x.stage⟩) later, ⟨h.ordered.fresh, h.ordered.watched⟩, ?_⟩
  by_cases still : stage.time = x.stage.time
  · simp only [still]
    exact h.prompt
  · -- time passes, so nobody had anything to do
    have idle : ¬ x.Due x.stage.time := by
      intro due
      have := punctual _ due
      omega
    have watched : x.scheduler.supervision ≠ .fresh := by
      intro fresh
      refine idle (.inr (.inr ?_))
      simp only [Scheduler.due, fresh]
    have dispatcher : x.scheduler.dispatcher ≠ .fresh := by
      intro fresh
      refine idle (.inl ?_)
      exact (Scheduler.workerDue_of_running watched x.scheduler.dispatcher x.stage).trans (by
        rw [fresh]
        rfl)
    have cleaner : x.scheduler.cleaner ≠ .fresh := by
      intro fresh
      refine idle (.inr (.inl ?_))
      exact (Scheduler.workerDue_of_running watched x.scheduler.cleaner x.stage).trans (by
        rw [fresh]
        rfl)
    refine .inr ⟨dispatcher, cleaner, fun out (watching : x.scheduler.supervision = .watching) => ?_⟩
    have dispatched := h.dispatcher.isOver_of_out out dispatcher
    have cleaned := h.cleaner.isOver_of_out out cleaner
    refine idle (.inr (.inr ?_))
    simp only [Scheduler.due, watching, dispatched, cleaned, Bool.and_self, if_true]

theorem turn {y : Course} {shown : List Moment} (h : Lasting pace seat origin x)
    (turn : Course.Turn pace x shown y) (wanted : Wanted seat x.stage)
    (positive : 0 < pace.interval.milliseconds) : Lasting pace seat origin y := by
  cases turn with
  | dispatcher due past => exact h.dispatch wanted positive due past
  | cleaner due past => exact h.cleanup wanted positive due past
  | supervisor due past => exact h.supervise due past
  | others stage _ later punctual => exact h.others later punctual

theorem of_stretch {stage : Stage} {transcript : List Moment}
    (run : Course.Stretch pace (Wanted seat) (.start seat stage) transcript x)
    (positive : 0 < pace.interval.milliseconds) : Lasting pace seat stage.time x := by
  induction run with
  | start => exact start pace seat stage
  | turn before next _ ih => exact ih.turn next before.now positive

/-- As long as the next tick is within reach, the scheduler watches its workers and says no
farewell. -/
theorem running (h : Lasting pace seat origin x) (reaches : pace.Reaches x.stage.time) :
    (x.scheduler.dispatcher.isOver = false ∧ x.scheduler.cleaner.isOver = false) ∧
    (x.scheduler.supervision = .fresh ∨ x.scheduler.supervision = .watching) ∧
    ∀ y, x.Acts pace y → x.stage.Discreet y.stage := by
  have dispatching := h.dispatcher.running reaches
  have cleaning := h.cleaner.running reaches
  refine ⟨⟨dispatching, cleaning⟩, ?_, ?_⟩
  · rcases h.ordered.watched with fresh | watching | ⟨ended, -⟩
    · exact .inl fresh
    · exact .inr watching
    · rw [dispatching] at ended
      cases ended
  · intro y acts
    cases acts with
    | dispatcher => exact Worker.step_discreet dispatch_deaf dispatch_reserved _ _ _
    | cleaner => exact Worker.step_discreet cleanup_deaf cleanup_reserved _ _ _
    | supervisor due =>
      rcases h.ordered.watched with fresh | watching | ⟨ended, -⟩
      · simp only [Course.supervise, Scheduler.step, fresh]
        exact .log _ fun n member => by cases List.mem_singleton.mp member; rfl
      · simp [Scheduler.due, watching, dispatching] at due
      · rw [dispatching] at ended
        cases ended

end Lasting

/-- **A scheduler lasts as long as its next tick is within reach of the clock.** Whatever the
environment sets, the interval is one that ticks. As long as nobody cancels the scheduler and no call
breaks off, both workers go on, and it is neither said that one has failed nor that the scheduler has
stopped, while the machine can tell the instant that is an interval away. A step brings a worker to
its end if and only if it has to set its ticker, in the beginning or after a tick that it has heard
too late, and the machine cannot tell that instant. An interval that is out of reach from the
beginning makes both workers fail before any time has passed, and the scheduler gives up. -/
theorem lasts_within_reach (env : Environment) (uptime : Nat) {seat : Seat} {origin : Stage}
    {x : Course} {transcript : List Moment}
    (run : Course.Stretch (Pace.ofEnvironment env uptime) (Wanted seat) (.start seat origin)
      transcript x) :
    let pace := Pace.ofEnvironment env uptime
    (pace.Reaches x.stage.time →
      (x.scheduler.dispatcher.isOver = false ∧ x.scheduler.cleaner.isOver = false) ∧
      (x.scheduler.supervision = .fresh ∨ x.scheduler.supervision = .watching) ∧
      ∀ y, x.Acts pace y → x.stage.Discreet y.stage) ∧
    (∀ t, x.scheduler.dispatcherDue x.stage = some t →
      ((x.dispatch pace).scheduler.dispatcher.isOver = true ↔
        x.scheduler.dispatcher.Resets x.stage.time ∧ ¬ pace.Reaches x.stage.time)) ∧
    (∀ t, x.scheduler.cleanerDue x.stage = some t →
      ((x.cleanup pace).scheduler.cleaner.isOver = true ↔
        x.scheduler.cleaner.Resets x.stage.time ∧ ¬ pace.Reaches x.stage.time)) ∧
    (¬ pace.Reaches origin.time → origin.time < x.stage.time →
      (x.scheduler.dispatcher.isOver = true ∧ x.scheduler.cleaner.isOver = true) ∧
        x.scheduler.supervision ≠ .fresh ∧ x.scheduler.supervision ≠ .watching) := by
  intro pace
  have positive : 0 < pace.interval.milliseconds := Pace.interval_pos env uptime
  have lasting : Lasting pace seat origin.time x := .of_stretch run positive
  have going := lasting.going run.now
  refine ⟨lasting.running, ?_, ?_, ?_⟩
  · intro t due
    exact Worker.step_over_iff (s := x.scheduler.scene x.stage) positive dispatch_deaf
      lasting.dispatcher going run.now.unbroken (Scheduler.running_of_due due).2
  · intro t due
    exact Worker.step_over_iff (s := x.scheduler.scene x.stage) positive cleanup_deaf
      lasting.cleaner going run.now.unbroken (Scheduler.running_of_due due).2
  · intro out passed
    obtain ⟨dispatcher, cleaner, watched⟩ := lasting.prompt.resolve_left (by omega)
    refine ⟨⟨lasting.dispatcher.isOver_of_out out dispatcher,
      lasting.cleaner.isOver_of_out out cleaner⟩, fun fresh => ?_, watched out⟩
    exact dispatcher (lasting.ordered.fresh fresh).1

namespace Unattended

/-- Nothing is stored, and nobody interferes. -/
def quiet : Stage where
  time := 0
  base := 0
  service := .new 5
  faults := []
  token := 0
  cancelled := []
  chance := { tick := false, delivery := true }
  entries := []

def seat : Seat := quiet.seat none

def undisturbed (s : Stage) : Bool := decide (s.faults = [] ∧ s.cancelled = [])

theorem wanted_of_undisturbed (s : Stage) (h : undisturbed s = true) : Wanted seat s := by
  obtain ⟨unplanned, uncancelled⟩ := of_decide_eq_true h
  have nothing (c : Call) : s.faults.find? c = none := by
    cases found : subject? c <;> simp [unplanned, FaultPlan.find?, found]
  exact ⟨by simp [uncancelled], fun c => by simp [nothing]⟩

/-- What a run comes to in which nobody else takes part. -/
theorem stretch_of_cues (pace : Pace) (cues : List Course.Cue) {α : Type} (outcome : Course → α)
    {a : α} (followed : ((Course.start seat quiet).follow? pace undisturbed cues).map outcome =
      some a) :
    ∃ x transcript, Course.Stretch pace (Wanted seat) (.start seat quiet) transcript x ∧
      outcome x = a := by
  obtain ⟨x, reached, same⟩ := Option.map_eq_some_iff.mp followed
  obtain ⟨transcript, run⟩ := Course.Stretch.follow wanted_of_undisturbed
    (wanted_of_undisturbed quiet (by decide)) reached
  exact ⟨x, transcript, run, same⟩

/-- The workers begin, and a minute later both are in a cycle. -/
def firstMinute : List Course.Cue :=
  [.supervisor, .dispatcher, .cleaner, .wait 60000, .dispatcher, .cleaner]

/-- Without settings the workers go on after a minute. -/
theorem default_interval_lasts : ∃ x transcript,
    Course.Stretch (Pace.ofEnvironment [] 0) (Wanted seat) (.start seat quiet) transcript x ∧
      x.stage.time = 60000 ∧ (Pace.ofEnvironment [] 0).Reaches x.stage.time ∧
      x.scheduler.dispatcher.isOver = false ∧ x.scheduler.cleaner.isOver = false := by
  obtain ⟨x, transcript, run, time⟩ := stretch_of_cues (Pace.ofEnvironment [] 0) firstMinute
    (fun x => x.stage.time) (a := 60000) (by cbv)
  have reaches : (Pace.ofEnvironment [] 0).Reaches x.stage.time := by
    rw [time]
    exact of_decide_eq_true (p := 0 + (60000 + 60000) / 1000 ≤ Ticker.horizon) rfl
  obtain ⟨lasting, -⟩ := lasts_within_reach [] 0 run
  obtain ⟨⟨dispatcher, cleaner⟩, -⟩ := lasting reaches
  exact ⟨x, transcript, run, time, reaches, dispatcher, cleaner⟩

/-- The longest interval that can be set. -/
def longest : Environment := [("SCHEDULER_INTERVAL_SECS", Text.bytes "18446744073709551615")]

def toTheEnd : List Course.Cue :=
  [.supervisor, .dispatcher, .cleaner, .supervisor, .supervisor, .supervisor]

/-- With the longest interval both workers fail at once, and the scheduler stops although nobody has
cancelled it. -/
theorem longest_interval_fails : ∃ x transcript,
    Course.Stretch (Pace.ofEnvironment longest 0) (Wanted seat) (.start seat quiet) transcript x ∧
      (Pace.ofEnvironment longest 0).interval = .ofSeconds 18446744073709551615 ∧
      x.scheduler.isOver = true ∧
      x.stage.entries = [⟨0, .notice .schedulerStopped⟩,
        ⟨0, .call (.produce .closeConnection)⟩, ⟨0, .notice .cleanupWorkerFailed⟩,
        ⟨0, .notice .dispatchWorkerFailed⟩,
        ⟨0, .notice (.schedulerStarted (.ofSeconds 18446744073709551615))⟩] := by
  have interval : (Pace.ofEnvironment longest 0).interval = .ofSeconds 18446744073709551615 := by
    cbv
  obtain ⟨x, transcript, run, same⟩ := stretch_of_cues (Pace.ofEnvironment longest 0) toTheEnd
    (fun x => (x.scheduler.isOver, x.stage.entries)) (a := (true, [⟨0, .notice .schedulerStopped⟩,
      ⟨0, .call (.produce .closeConnection)⟩, ⟨0, .notice .cleanupWorkerFailed⟩,
      ⟨0, .notice .dispatchWorkerFailed⟩,
      ⟨0, .notice (.schedulerStarted (.ofSeconds 18446744073709551615))⟩])) (by cbv)
  obtain ⟨ended, entries⟩ := Prod.mk.inj same
  exact ⟨x, transcript, run, interval, ended, entries⟩

end Unattended
end Agenda.Rehearsal
