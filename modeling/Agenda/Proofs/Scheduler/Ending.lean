import Agenda.Proofs.Scheduler.Journal
import Mathlib.Data.Prod.Lex

/-! How a scheduler that is cancelled comes to its end. Whatever its workers wait for ends. Each of
their steps brings them closer to their end, but for one that begins another cycle, and chance does
not decide for another cycle for ever. Then nothing but the closing of the connection can keep the
scheduler from stopping. -/
namespace Agenda

/-! ## What is left to do -/

/-- A cycle that has made its query has so many calls left. -/
def Dispatch.left : Dispatch → ℕ ×ₗ ℕ
  | .query _ => toLex (1, 0)
  | .openChannel due => toLex (0, due.length + 2)
  | .publish _ later _ => toLex (0, later.length + 2)
  | .closeChannel _ => toLex (0, 1)
  | .finished => toLex (0, 0)

def Cleanup.left : Cleanup → ℕ ×ₗ ℕ
  | .query _ => toLex (1, 0)
  | .delete _ later _ => toLex (0, later.length + 1)
  | .finished => toLex (0, 0)

/-- Every answer brings a cycle closer to its end. -/
def Winding {σ : Type} [Machine σ] (left : σ → ℕ ×ₗ ℕ) : Prop :=
  ∀ (state : σ) (c : Call) (next : c.Answer → σ × List Notice) (a : c.Answer),
    Machine.move state = .ask c next → left (next a).1 < left state

theorem Dispatch.left_proceed (count : Nat) (later : List Event) :
    (Dispatch.proceed count later).left = toLex (0, later.length + 1) := by
  cases later <;> rfl

theorem Cleanup.left_proceed (count : Nat) (notices : List Notice) (later : List Event) :
    (Cleanup.proceed count notices later).1.left = toLex (0, later.length) := by
  cases later <;> rfl

theorem fewer {a b : ℕ} (h : a < b) : toLex ((0 : ℕ), a) < toLex (0, b) :=
  Prod.Lex.toLex_lt_toLex.mpr (.inr ⟨rfl, h⟩)

theorem queried (a : ℕ) : toLex ((0 : ℕ), a) < toLex (1, 0) :=
  Prod.Lex.toLex_lt_toLex.mpr (.inl Nat.one_pos)

theorem dispatch_winding : Winding Dispatch.left := by
  intro state c next a asks
  cases state with
  | query window =>
    cases asks
    rcases a with e | due
    · cases e <;> exact queried 0
    · exact queried _
  | openChannel due =>
    cases asks
    cases a with
    | ok =>
      simp only [Dispatch.left_proceed]
      exact fewer (Nat.lt_succ_self _)
    | error e => exact fewer (Nat.succ_pos _)
  | publish event later count =>
    cases asks
    cases a <;>
      (simp only [Dispatch.left_proceed]
       exact fewer (Nat.lt_succ_self _))
  | closeChannel count =>
    cases asks
    cases a <;> exact fewer Nat.one_pos
  | finished => cases asks

theorem cleanup_winding : Winding Cleanup.left := by
  intro state c next a asks
  cases state with
  | query window =>
    cases asks
    rcases a with e | expired
    · cases e <;> exact queried 0
    · simp only [Cleanup.left_proceed]
      exact queried _
  | delete event later count =>
    cases asks
    rcases a with e | _
    · cases e <;>
        (simp only [Cleanup.left_proceed]
         exact fewer (Nat.lt_succ_self _))
    · simp only [Cleanup.left_proceed]
      exact fewer (Nat.lt_succ_self _)
  | finished => cases asks

namespace Rehearsal

/-- What is left to a worker: whether it is started and works, what its cycle has left to do, and
whether it has to make its call. -/
abbrev Height := ℕ ×ₗ (ℕ ×ₗ ℕ) ×ₗ ℕ

def Phase.height : Phase → ℕ
  | .acting => 1
  | _ => 0

namespace Worker

variable {σ : Type} [Cycle σ]

def height (left : σ → ℕ ×ₗ ℕ) : Worker σ → Height
  | .fresh => toLex (2, toLex (toLex (0, 0), 0))
  | .cycling _ p => toLex (2, toLex (left p.state, p.phase.height))
  | .waiting _ => toLex (1, toLex (toLex (0, 0), 0))
  | .ended | .failed => toLex (0, toLex (toLex (0, 0), 0))

/-- A tick is due to a worker that waits. -/
def HasTick (time : Nat) : Worker σ → Prop
  | .waiting t => t.due ≤ time
  | _ => False

variable {pace : Pace} {w : Worker σ} {s : Scene} {left : σ → ℕ ×ₗ ℕ}

omit [Cycle σ] in
theorem not_hasTick_of_over {time : Nat} (h : w.isOver = true) : ¬ w.HasTick time := by
  cases w with
  | ended | failed => exact id
  | fresh | waiting | cycling => cases h

/-- If it is left to chance whether a worker stops, chance can decide for it. -/
theorem step_stops (tick : w.HasTick s.time) (cancelled : s.isCancelled = true)
    (heard : s.stage.chance.tick = false) : (w.step pace s).1.isOver = true := by
  cases w with
  | waiting t =>
    have stops : s.stopsBefore t = true := Scene.stopsBefore_iff.mpr ⟨cancelled, fun _ => heard⟩
    simp only [step, stops, if_true]
    rfl
  | fresh | cycling | ended | failed => exact tick.elim

/-- A worker that is to stop comes closer to its end with every step, but for a tick. -/
theorem step_lower (winding : Winding left) (deaf : Deaf σ)
    (active : ∀ t p, w = .cycling t p → p.Active) (cancelled : s.isCancelled = true)
    (settled : ¬ w.HasTick s.time) (unbroken : ∀ c, s.stage.faults.find? c ≠ some .crash)
    (running : w.isOver = false) :
    (w.step pace s).1.height left < w.height left := by
  have sooner {m n : ℕ} {a b : (ℕ ×ₗ ℕ) ×ₗ ℕ} (h : m < n) : (toLex (m, a) : Height) < toLex (n, b) :=
    Prod.Lex.toLex_lt_toLex.mpr (.inl h)
  cases w with
  | fresh =>
    simp only [step]
    split
    · exact sooner (by decide)
    · exact sooner (by decide)
  | waiting t =>
    have stops : s.stopsBefore t = true :=
      Scene.stopsBefore_iff.mpr ⟨cancelled, fun due => absurd due settled⟩
    simp only [step, stops, if_true]
    exact sooner (by decide)
  | cycling t p =>
    cases asks : Machine.move p.state with
    | halt =>
      have halts : p.step (some pace.operationTimeout) s = ({ p with phase := .halted }, s) := by
        simp only [Performer.step, asks]
      simp only [step, halts]
      exact sooner (by decide)
    | ask c next =>
      obtain ⟨shown, turn⟩ : ∃ shown, p.Turn (some pace.operationTimeout) s shown
          (p.step (some pace.operationTimeout) s) :=
        ⟨_, Performer.step_turn (active t p rfl) asks (unbroken c) fun unlimited =>
          absurd unlimited (Option.some_ne_none _)⟩
      rw [step_active turn.active]
      generalize p.step (some pace.operationTimeout) s = q at turn ⊢
      refine Prod.Lex.toLex_lt_toLex.mpr (.inr ⟨rfl, ?_⟩)
      cases turn with
      | waits _ acting =>
        rw [acting]
        exact Prod.Lex.toLex_lt_toLex.mpr (.inr ⟨rfl, Nat.one_pos⟩)
      | @answered _ _ a _ asked =>
        exact Prod.Lex.toLex_lt_toLex.mpr (.inl (winding _ _ _ a asked))
    | listen next => exact absurd asks (deaf p.state next)
  | ended | failed => cases running

end Worker

/-- A call that does not break off waits or is answered, unless it hangs and may take any time. -/
theorem Performer.step_begins {σ : Type} [Machine σ] {limit : Option Duration} {p : Performer σ}
    {c : Call} {next : c.Answer → σ × List Notice} {s : Scene}
    (acting : p.phase = .acting) (asks : Machine.move p.state = .ask c next)
    (unbroken : s.stage.faults.find? c ≠ some .crash) :
    (p.step limit s).1 = ⟨p.state, .stuck⟩ ∨ ∃ shown, p.Turn limit s shown (p.step limit s) := by
  by_cases returns : limit = none → s.stage.faults.find? c ≠ some .hang
  · exact .inr ⟨_, step_turn (.inl acting) asks unbroken returns⟩
  · obtain ⟨rfl, hangs⟩ := Classical.not_imp.mp returns
    have faults : (s.note (.call c)).stage.faults = s.stage.faults := rfl
    refine .inl ?_
    simp only [step, asks, acting, attempt, faults, not_not.mp hangs]
    rfl

/-- A call that has waited is answered. -/
theorem Performer.step_ends {σ : Type} [Machine σ] {p : Performer σ} {c : Call}
    {next : c.Answer → σ × List Notice} {stop : Nat} {cut : Bool}
    (delayed : p.phase = .delayed stop cut) (asks : Machine.move p.state = .ask c next) (s : Scene)
    (limit : Option Duration) : ∃ a, (p.step limit s).1 = .start (next a).1 := by
  simp only [Performer.step, asks, delayed]
  split
  · exact ⟨_, rfl⟩
  · exact ⟨_, rfl⟩

/-- What is left to the scheduler itself. A call that never ends is as good as the end. -/
def Supervision.height : Supervision → ℕ
  | .fresh => 5
  | .watching => 4
  | .closing ⟨.closeConnection, .acting⟩ => 3
  | .closing ⟨.closeConnection, .delayed _ _⟩ => 2
  | .closing ⟨.finished, .acting⟩ => 1
  | .closing _ | .stopped | .crashed => 0

theorem Scheduler.step_lower {pace : Pace} {x : Scheduler} {s : Stage} {calls : List Spell}
    (h : x.supervision.Reckoned s.time calls) (unbroken : ∀ c, s.faults.find? c ≠ some .crash)
    {t : Nat} (due : x.due s = some t) :
    (x.step pace s).1.supervision.height < x.supervision.height := by
  cases standing : x.supervision with
  | fresh =>
    simp only [Scheduler.step, standing]
    decide
  | watching =>
    simp only [Scheduler.step, standing]
    exact (by decide : 3 < 4)
  | closing p =>
    rw [standing] at h
    simp only [Scheduler.due, standing] at due
    simp only [Scheduler.step, standing]
    obtain ⟨state, phase⟩ := p
    cases phase with
    | acting =>
      cases state with
      | closeConnection =>
        rcases Performer.step_begins (p := ⟨Shutdown.closeConnection, .acting⟩) rfl rfl
            (unbroken (.produce .closeConnection)) (s := x.scene s) with
          stuck | ⟨shown, turn⟩
        · rw [stuck]
          exact (by decide : 0 < 3)
        · generalize Performer.step none ⟨Shutdown.closeConnection, .acting⟩ (x.scene s) = q at turn ⊢
          cases turn with
          | waits => exact (by decide : 2 < 3)
          | @answered c next a s' asks =>
            cases asks
            cases a <;> exact (by decide : 1 < 3)
      | finished => exact Nat.one_pos
    | delayed stop cut =>
      cases state with
      | closeConnection =>
        obtain ⟨a, answered⟩ := Performer.step_ends (p := ⟨Shutdown.closeConnection, .delayed stop cut⟩)
          rfl rfl (x.scene s) none
        rw [answered]
        cases a <;> exact (by decide : 1 < 2)
      | finished =>
        obtain ⟨-, -, r, -, -, ⟨⟨next, asks⟩, -, -⟩, -⟩ := h
        cases asks
    | asleep | crashed => exact h.2.elim
    | stuck | halted => cases due
  | stopped | crashed =>
    simp only [Scheduler.due, standing] at due
    cases due

/-! ## Who is due -/

section Due

variable {s u : Scene} {t : Nat}

/-- While time passes up to when somebody is due, that does not move further away. -/
theorem Performer.due_kept {σ : Type} {p : Performer σ} (active : p.Active)
    (due : p.due s = some t) (soon : u.time ≤ max t s.time) :
    ∃ t', p.due u = some t' ∧ max t' u.time ≤ max t s.time := by
  rcases active with acting | ⟨stop, cut, delayed⟩
  · refine ⟨u.time, by simp only [Performer.due, acting], ?_⟩
    rw [Nat.max_self]
    exact soon
  · simp only [Performer.due, delayed] at due ⊢
    obtain rfl : stop = t := Option.some.inj due
    exact ⟨stop, rfl, by omega⟩

variable {σ : Type} [Cycle σ] {w : Worker σ}

omit [Cycle σ] in
theorem Worker.due_kept (active : ∀ t p, w = .cycling t p → p.Active) (due : w.due s = some t)
    (cancelled : u.isCancelled = true) (soon : u.time ≤ max t s.time) :
    ∃ t', w.due u = some t' ∧ max t' u.time ≤ max t s.time := by
  cases w with
  | fresh => exact ⟨u.time, rfl, by omega⟩
  | waiting tick =>
    refine ⟨u.time, congrArg some (if_pos cancelled), ?_⟩
    rw [Nat.max_self]
    exact soon
  | cycling tick p => exact Performer.due_kept (active tick p rfl) due soon
  | ended | failed => cases due

omit [Cycle σ] in
theorem Worker.due_of_running (active : ∀ t p, w = .cycling t p → p.Active)
    (running : w.isOver = false) (s : Scene) : ∃ t, w.due s = some t := by
  cases w with
  | fresh => exact ⟨s.time, rfl⟩
  | waiting tick => exact ⟨_, rfl⟩
  | cycling tick p =>
    rcases active tick p rfl with acting | ⟨stop, cut, delayed⟩
    · exact ⟨s.time, by simp only [Worker.due, Performer.due, acting]⟩
    · exact ⟨stop, by simp only [Worker.due, Performer.due, delayed]⟩
  | ended | failed => cases running

end Due

theorem Performer.Reckoned.active_of_due {σ : Type} [Machine σ] {limit : Option Duration}
    {p : Performer σ} {s : Scene} {calls : List Spell} (h : p.Reckoned limit s.time calls) {t : Nat}
    (due : p.due s = some t) : p.Active := by
  obtain ⟨state, phase⟩ := p
  cases phase with
  | acting => exact .inl rfl
  | delayed stop cut => exact .inr ⟨stop, cut, rfl⟩
  | asleep | crashed => exact h.elim
  | stuck | halted => cases due

/-- A call that may take any time and that nobody is due for never ends. -/
theorem Performer.Reckoned.stuck_of_idle {σ : Type} [Machine σ] {p : Performer σ} {s : Scene}
    {calls : List Spell} (h : p.Reckoned none s.time calls) (going : p.phase ≠ .halted)
    (idle : ∀ t, p.due s ≠ some t) : ∃ r ∈ calls, r.latency = none := by
  obtain ⟨state, phase⟩ := p
  cases phase with
  | acting => exact absurd rfl (idle s.time)
  | delayed stop cut => exact absurd rfl (idle stop)
  | stuck =>
    obtain ⟨r, earlier, rfl, here, -⟩ := h
    exact ⟨r, .head _, Option.map_eq_none_iff.mp here.length⟩
  | halted => exact absurd rfl going
  | asleep | crashed => exact h.elim

theorem Worker.Reckoned.active {σ : Type} [Cycle σ] {pace : Pace} {w : Worker σ} {now : Nat}
    {calls : List Spell} (h : w.Reckoned pace now calls) : ∀ t p, w = .cycling t p → p.Active := by
  rintro t p rfl
  exact h.1

theorem Worker.Reckoned.all_over {σ : Type} [Cycle σ] {pace : Pace} {w : Worker σ} {now : Nat}
    {calls : List Spell} (h : w.Reckoned pace now calls) (ended : w.isOver = true) :
    ∀ r ∈ calls, r.Over (some pace.operationTimeout) := by
  cases w with
  | ended | failed => exact h
  | fresh | waiting | cycling => cases ended

namespace Journal

variable {pace : Pace} {holds : Stage → Prop} {j j' : Journal}

def isCancelled (j : Journal) : Bool := (j.course.scheduler.scene j.course.stage).isCancelled

def height (j : Journal) : Height ×ₗ Height ×ₗ ℕ :=
  toLex (j.course.scheduler.dispatcher.height Dispatch.left,
    toLex (j.course.scheduler.cleaner.height Cleanup.left, j.course.scheduler.supervision.height))

/-- In a step a worker acts to which a tick is due. If it is cancelled, it is left to chance whether
it stops. -/
def Chooses {σ : Type} (worker : Journal → Worker σ) (act : Journal → Journal) (j j' : Journal) :
    Prop :=
  (worker j).HasTick j.time ∧ j' = act j

def dispatcherOf (j : Journal) : Worker Dispatch := j.course.scheduler.dispatcher

def cleanerOf (j : Journal) : Worker Cleanup := j.course.scheduler.cleaner

/-- Nothing is left to chance in a step. -/
def Settled (pace : Pace) (j j' : Journal) : Prop :=
  ¬ Chooses dispatcherOf (dispatch pace) j j' ∧ ¬ Chooses cleanerOf (cleanup pace) j j'

namespace Kept

/-- Whoever acts brings a scheduler that is cancelled closer to its end. Otherwise time passes, no
further than to what is due. -/
theorem lower (h : Kept pace j) (unbroken : ∀ c, j.course.stage.faults.find? c ≠ some .crash)
    (cancelled : j.isCancelled = true) (settled : Settled pace j j') (next : Step pace j j') :
    j'.height < j.height ∨ ∃ stage, j' = j.withStage stage ∧ j.time ≤ stage.time ∧
      ∀ t, j.course.Due t → stage.time ≤ max t j.time := by
  cases next with
  | dispatcher due =>
    refine .inl (Prod.Lex.toLex_lt_toLex.mpr (.inl ?_))
    exact Worker.step_lower (s := j.course.scheduler.scene j.course.stage) dispatch_winding
      dispatch_deaf h.dispatcher.active cancelled (fun tick => settled.1 ⟨tick, rfl⟩) unbroken
      (Scheduler.running_of_due due).2
  | cleaner due =>
    refine .inl (Prod.Lex.toLex_lt_toLex.mpr (.inr ⟨rfl, Prod.Lex.toLex_lt_toLex.mpr (.inl ?_)⟩))
    exact Worker.step_lower (s := j.course.scheduler.scene j.course.stage) cleanup_winding
      cleanup_deaf h.cleaner.active cancelled (fun tick => settled.2 ⟨tick, rfl⟩) unbroken
      (Scheduler.running_of_due due).2
  | supervisor due =>
    have dispatcher : (j.supervise pace).course.scheduler.dispatcher =
        j.course.scheduler.dispatcher := Timed.dispatcher_step _ _
    have cleaner : (j.supervise pace).course.scheduler.cleaner = j.course.scheduler.cleaner :=
      Disciplined.cleaner_step _ _
    refine .inl (Prod.Lex.toLex_lt_toLex.mpr (.inr ⟨by rw [dispatcher], ?_⟩))
    refine Prod.Lex.toLex_lt_toLex.mpr (.inr ⟨by rw [cleaner], ?_⟩)
    exact Scheduler.step_lower h.supervisor unbroken due
  | others stage _ later punctual => exact .inr ⟨stage, rfl, later, punctual⟩

/-- While time passes somebody is still due. -/
theorem waits (h : Kept pace j) {stage : Stage}
    (cancelled : (j.withStage stage).isCancelled = true) {t : Nat} (due : j.course.Due t)
    (soon : stage.time ≤ max t j.time) :
    ∃ t', (j.withStage stage).course.Due t' ∧ max t' stage.time ≤ max t j.time := by
  rcases due with due | due | due
  · obtain ⟨started, -⟩ := Scheduler.running_of_due due
    have own := Scheduler.workerDue_of_running started j.course.scheduler.dispatcher
    obtain ⟨t', due', sooner⟩ := Worker.due_kept (u := j.course.scheduler.scene stage)
      h.dispatcher.active ((own j.course.stage).symm.trans due) cancelled soon
    exact ⟨t', .inl ((own stage).trans due'), sooner⟩
  · obtain ⟨started, -⟩ := Scheduler.running_of_due due
    have own := Scheduler.workerDue_of_running started j.course.scheduler.cleaner
    obtain ⟨t', due', sooner⟩ := Worker.due_kept (u := j.course.scheduler.scene stage)
      h.cleaner.active ((own j.course.stage).symm.trans due) cancelled soon
    exact ⟨t', .inr (.inl ((own stage).trans due')), sooner⟩
  · have reckoned := h.supervisor
    cases standing : j.course.scheduler.supervision with
    | fresh =>
      simp only [Scheduler.due, standing] at due
      obtain rfl : j.time = t := Option.some.inj due
      refine ⟨stage.time, .inr (.inr ?_), by omega⟩
      simp only [withStage, Scheduler.due, standing]
    | watching =>
      simp only [Scheduler.due, standing, Option.ite_none_right_eq_some] at due
      obtain ⟨both, same⟩ := due
      obtain rfl : j.time = t := Option.some.inj same
      refine ⟨stage.time, .inr (.inr ?_), by omega⟩
      simp only [withStage, Scheduler.due, standing, both, if_true]
    | closing p =>
      rw [standing] at reckoned
      simp only [Scheduler.due, standing] at due
      obtain ⟨t', due', sooner⟩ := Performer.due_kept (u := j.course.scheduler.scene stage)
        (reckoned.2.active_of_due due) due soon
      refine ⟨t', .inr (.inr ?_), sooner⟩
      simp only [withStage, Scheduler.due, standing]
      exact due'
    | stopped | crashed =>
      simp only [Scheduler.due, standing] at due
      cases due

/-- A scheduler that has stopped waits for nothing. -/
theorem all_ended (h : Kept pace j) (stopped : j.course.scheduler.supervision = .stopped) :
    ∀ r ∈ j.calls, r.ended ≠ none := by
  have over_ended {limit : Option Duration} {r : Spell} (ends : r.Over limit) : r.ended ≠ none := by
    obtain ⟨n, -, ended⟩ := ends
    simp [ended]
  have ended := h.ordered.watched.resolve_left (by simp [stopped])
  obtain ⟨dispatcher, cleaner⟩ := ended.resolve_left (by simp [stopped])
  have supervisor := h.supervisor
  rw [stopped] at supervisor
  intro r member
  simp only [calls, List.mem_append] at member
  rcases member with (member | member) | member
  · exact over_ended (h.dispatcher.all_over dispatcher r member)
  · exact over_ended (h.cleaner.all_over cleaner r member)
  · exact over_ended (supervisor r member)

/-- When nobody is due, the workers are over. The scheduler has stopped, or it waits for ever for the
connection to close. -/
theorem settled (h : Kept pace j) (idle : ∀ t, ¬ j.course.Due t) :
    (j.course.scheduler.dispatcher.isOver = true ∧ j.course.scheduler.cleaner.isOver = true) ∧
      (j.course.scheduler.supervision = .stopped ∨
        ∃ r ∈ j.calls, Closes r.call ∧ r.latency = none) := by
  have reckoned := h.supervisor
  cases standing : j.course.scheduler.supervision with
  | fresh =>
    refine absurd (.inr (.inr ?_)) (idle j.time)
    simp only [Scheduler.due, standing]
    rfl
  | watching =>
    have started : j.course.scheduler.supervision ≠ .fresh := by simp [standing]
    have ends {σ : Type} [Cycle σ] {w : Worker σ} (active : ∀ t p, w = .cycling t p → p.Active)
        (waited : ∀ t, j.course.scheduler.workerDue w j.course.stage ≠ some t) :
        w.isOver = true := by
      by_contra running
      obtain ⟨t, due⟩ := Worker.due_of_running active (Bool.eq_false_of_not_eq_true running)
        (j.course.scheduler.scene j.course.stage)
      exact waited t ((Scheduler.workerDue_of_running started w _).trans due)
    have dispatcher := ends h.dispatcher.active fun t due => idle t (.inl due)
    have cleaner := ends h.cleaner.active fun t due => idle t (.inr (.inl due))
    refine absurd (.inr (.inr ?_)) (idle j.time)
    simp only [Scheduler.due, standing, dispatcher, cleaner, Bool.and_self, if_true]
    rfl
  | closing p =>
    rw [standing] at reckoned
    have ended := h.ordered.watched.resolve_left (by simp [standing])
    refine ⟨ended.resolve_left (by simp [standing]), .inr ?_⟩
    have waited (t : Nat) : p.due (j.course.scheduler.scene j.course.stage) ≠ some t := by
      intro due
      refine idle t (.inr (.inr ?_))
      simp only [Scheduler.due, standing]
      exact due
    obtain ⟨r, member, never⟩ := reckoned.2.stuck_of_idle reckoned.1 waited
    have own : r ∈ j.calls := List.mem_append_right _ member
    exact ⟨r, own, h.closing r member, never⟩
  | stopped =>
    have ended := h.ordered.watched.resolve_left (by simp [standing])
    exact ⟨ended.resolve_left (by simp [standing]), .inl rfl⟩
  | crashed =>
    rw [standing] at reckoned
    exact reckoned.elim

end Kept

/-! ## Endless runs -/

theorem Step.later (h : Step pace j j') : j.time ≤ j'.time := by
  cases h with
  | dispatcher =>
    have same := SameTime.worker pace j.course.scheduler.dispatcher
      (j.course.scheduler.scene j.course.stage)
    exact Nat.le_of_eq same.1.symm
  | cleaner =>
    have same := SameTime.worker pace j.course.scheduler.cleaner
      (j.course.scheduler.scene j.course.stage)
    exact Nat.le_of_eq same.1.symm
  | supervisor =>
    have same := SameTime.scheduler pace j.course.scheduler j.course.stage
    exact Nat.le_of_eq same.1.symm
  | others _ _ later => exact later

/-- A dispatcher that is over stays so. -/
theorem Step.dispatcher_over (h : Step pace j j')
    (ended : j.course.scheduler.dispatcher.isOver = true) :
    j'.course.scheduler.dispatcher.isOver = true := by
  cases h with
  | dispatcher due =>
    have running := (Scheduler.running_of_due due).2
    rw [ended] at running
    cases running
  | cleaner => exact ended
  | supervisor =>
    have same : (j.supervise pace).course.scheduler.dispatcher = j.course.scheduler.dispatcher :=
      Timed.dispatcher_step _ _
    exact same ▸ ended
  | others => exact ended

theorem Step.cleaner_over (h : Step pace j j') (ended : j.course.scheduler.cleaner.isOver = true) :
    j'.course.scheduler.cleaner.isOver = true := by
  cases h with
  | dispatcher => exact ended
  | cleaner due =>
    have running := (Scheduler.running_of_due due).2
    rw [ended] at running
    cases running
  | supervisor =>
    have same : (j.supervise pace).course.scheduler.cleaner = j.course.scheduler.cleaner :=
      Disciplined.cleaner_step _ _
    exact same ▸ ended
  | others => exact ended

/-- A run that never ends, as time does not. -/
structure Endless (pace : Pace) (holds : Stage → Prop) where
  state : ℕ → Journal
  step : ∀ n, Step pace (state n) (state (n + 1))
  throughout : ∀ n, holds (state n).course.stage
  passes : ∀ time, ∃ n, time ≤ (state n).time

namespace Endless

variable (e : Endless pace holds)

theorem kept (unbroken : ∀ s, holds s → ∀ c, s.faults.find? c ≠ some .crash)
    (first : Kept pace (e.state 0)) (n : ℕ) : Kept pace (e.state n) := by
  induction n with
  | zero => exact first
  | succ n ih => exact ih.step (unbroken _ (e.throughout n)) (e.step n)

theorem time_mono {m n : ℕ} (h : m ≤ n) : (e.state m).time ≤ (e.state n).time := by
  induction h with
  | refl => exact Nat.le_refl _
  | step _ ih => exact Nat.le_trans ih (e.step _).later

/-- Chance does not decide for another cycle for ever: if a worker has to choose over and over, it
hears in one of these steps that it is cancelled. -/
def FairTo {σ : Type} (worker : Journal → Worker σ) (act : Journal → Journal) : Prop :=
  (∀ m, ∃ n, m ≤ n ∧ Chooses worker act (e.state n) (e.state (n + 1))) →
    ∃ n, Chooses worker act (e.state n) (e.state (n + 1)) ∧
      (e.state n).course.stage.chance.tick = false

structure Fair : Prop where
  dispatcher : e.FairTo dispatcherOf (dispatch pace)
  cleaner : e.FairTo cleanerOf (cleanup pace)

/-- A run from its `m`-th step on. -/
def drop (m : ℕ) : Endless pace holds where
  state := fun n => e.state (m + n)
  step := fun n => e.step (m + n)
  throughout := fun n => e.throughout (m + n)
  passes := fun time => (e.passes time).imp fun n late =>
    Nat.le_trans late (e.time_mono (Nat.le_add_left n m))

section Cancelled

variable (unbroken : ∀ s, holds s → ∀ c, s.faults.find? c ≠ some .crash)
  (kept : ∀ n, Kept pace (e.state n)) (cancelled : ∀ n, (e.state n).isCancelled = true)

section Settled

variable (settled : ∀ n, Settled pace (e.state n) (e.state (n + 1)))
include unbroken kept cancelled settled

theorem height_mono {m n : ℕ} (h : m ≤ n) : (e.state n).height ≤ (e.state m).height := by
  induction h with
  | refl => exact le_refl _
  | @step n _ ih =>
    refine le_trans ?_ ih
    rcases (kept n).lower (unbroken _ (e.throughout n)) (cancelled n) (settled n) (e.step n) with
      lower | ⟨stage, same, -⟩
    · exact le_of_lt lower
    · rw [same]
      exact le_refl _

/-- Time does not pass by somebody who is due. -/
theorem acts_again {n t : ℕ} (due : (e.state n).course.Due t) :
    ∃ m, n ≤ m ∧ (e.state (m + 1)).height < (e.state m).height := by
  by_contra none
  -- as long as nobody acts, somebody is due by the same time
  have waits (k : ℕ) : ∃ t', (e.state (n + k)).course.Due t' ∧
      max t' (e.state (n + k)).time ≤ max t (e.state n).time := by
    induction k with
    | zero => exact ⟨t, due, Nat.le_refl _⟩
    | succ k ih =>
      obtain ⟨t', due', bound⟩ := ih
      have here := kept (n + k)
      have idle : ¬ (e.state (n + k + 1)).height < (e.state (n + k)).height := fun lower =>
        none ⟨n + k, Nat.le_add_right _ _, lower⟩
      obtain ⟨stage, same, -, punctual⟩ := (here.lower (unbroken _ (e.throughout _)) (cancelled _)
        (settled _) (e.step (n + k))).resolve_left idle
      have still := cancelled (n + k + 1)
      rw [same] at still
      obtain ⟨t'', due'', sooner⟩ := here.waits still due' (punctual t' due')
      rw [← Nat.add_assoc, same]
      exact ⟨t'', due'', Nat.le_trans sooner bound⟩
  obtain ⟨m, late⟩ := e.passes (max t (e.state n).time + 1)
  by_cases earlier : m ≤ n
  · have := e.time_mono earlier
    omega
  · obtain ⟨k, rfl⟩ := Nat.exists_eq_add_of_le (Nat.le_of_not_le earlier)
    obtain ⟨t', -, bound⟩ := waits k
    omega

/-- At some point there is nothing left to do. -/
theorem comes_to_rest : ∃ n, ∀ t, ¬ (e.state n).course.Due t := by
  suffices rests : ∀ h n, (e.state n).height = h → ∃ n, ∀ t, ¬ (e.state n).course.Due t from
    rests _ 0 rfl
  intro h
  induction h using WellFoundedLT.induction with
  | ind h ih =>
    rintro n rfl
    by_cases idle : ∀ t, ¬ (e.state n).course.Due t
    · exact ⟨n, idle⟩
    · obtain ⟨t, due⟩ := not_forall_not.mp idle
      obtain ⟨m, later, lower⟩ := e.acts_again unbroken kept cancelled settled due
      have below := e.height_mono unbroken kept cancelled settled later
      exact ih _ (lt_of_lt_of_le lower below) (m + 1) rfl

end Settled

include cancelled in
/-- From some point on a worker does not have to choose any more. -/
theorem settles {σ : Type} [Cycle σ] {worker : Journal → Worker σ} {act : Journal → Journal}
    (acts : ∀ j, worker (act j) =
      ((worker j).step pace (j.course.scheduler.scene j.course.stage)).1)
    (stays : ∀ j j', Step pace j j' → (worker j).isOver = true → (worker j').isOver = true)
    (fair : e.FairTo worker act) :
    ∃ m, ∀ n, m ≤ n → ¬ Chooses worker act (e.state n) (e.state (n + 1)) := by
  by_contra! often
  obtain ⟨n, ⟨tick, next⟩, heard⟩ := fair often
  -- it stops in this step, and then it never has to choose again
  have ended : (worker (e.state (n + 1))).isOver = true := by
    rw [next, acts]
    exact Worker.step_stops tick (cancelled n) heard
  have over_from (m : ℕ) (later : n + 1 ≤ m) : (worker (e.state m)).isOver = true := by
    induction later with
    | refl => exact ended
    | @step k _ ih => exact stays _ _ (e.step k) ih
  obtain ⟨m, later, again, -⟩ := often (n + 1)
  exact Worker.not_hasTick_of_over (over_from m later) again

include unbroken kept cancelled in
/-- At some point nothing is left to chance any more, and later nothing is left to do. -/
theorem comes_to_rest_of_fair (fair : e.Fair) : ∃ n, ∀ t, ¬ (e.state n).course.Due t := by
  obtain ⟨m, dispatcher⟩ := e.settles cancelled (fun _ => rfl) (fun _ _ => Step.dispatcher_over)
    fair.dispatcher
  obtain ⟨k, cleaner⟩ := e.settles cancelled (fun _ => rfl) (fun _ _ => Step.cleaner_over)
    fair.cleaner
  have settled (n : ℕ) : Settled pace ((e.drop (max m k)).state n)
      ((e.drop (max m k)).state (n + 1)) :=
    ⟨dispatcher _ (Nat.le_trans (Nat.le_max_left m k) (Nat.le_add_right _ n)),
      cleaner _ (Nat.le_trans (Nat.le_max_right m k) (Nat.le_add_right _ n))⟩
  obtain ⟨n, idle⟩ := (e.drop (max m k)).comes_to_rest unbroken (fun n => kept _)
    (fun n => cancelled _) settled
  exact ⟨_, idle⟩

end Cancelled

/-- A run that follows some cues, and then time passes. -/
def follow (pace : Pace) (cues : List Course.Cue) (j : Journal) : ℕ → Journal
  | 0 => j
  | n + 1 => (follow pace cues j n).after pace
      (cues[n]?.getD (.wait ((follow pace cues j n).time + 1)))

/-- Nothing is left to do, and nothing will be. -/
def AtRest (x : Course) : Prop := ∀ stage t, ¬ ({ x with stage } : Course).Due t

theorem atRest_of_over {x : Course} (dispatcher : x.scheduler.dispatcher.isOver = true)
    (cleaner : x.scheduler.cleaner.isOver = true) (ended : x.scheduler.isOver = true) :
    AtRest x := by
  rintro stage t (due | due | due)
  · have running := (Scheduler.running_of_due due).2
    rw [dispatcher] at running
    cases running
  · have running := (Scheduler.running_of_due due).2
    rw [cleaner] at running
    cases running
  · unfold Scheduler.due at due
    unfold Scheduler.isOver at ended
    cases standing : x.scheduler.supervision with
    | stopped | crashed =>
      rw [standing] at due
      cases due
    | fresh | watching | closing =>
      rw [standing] at ended
      cases ended

section Follow

variable {check : Stage → Bool} {cues : List Course.Cue} {x : Course}
  (sound : ∀ s, check s = true → holds s) (steady : ∀ s time, holds s → holds { s with time })
  (now : holds j.course.stage) (followed : j.course.follow? pace check cues = some x)
  (rest : AtRest x)
include sound steady now followed rest

/-- It goes on to follow the cues that are left. -/
theorem follow_rest (n : ℕ) : holds (follow pace cues j n).course.stage ∧
    ∃ y, (follow pace cues j n).course.follow? pace check (cues.drop n) = some y ∧ AtRest y := by
  induction n with
  | zero => exact ⟨now, x, followed, rest⟩
  | succ n ih =>
    obtain ⟨held, y, onward, rest⟩ := ih
    by_cases more : n < cues.length
    · rw [List.drop_eq_getElem_cons more] at onward
      obtain ⟨z, next, later⟩ := Option.bind_eq_some_iff.mp onward
      split at later
      · simp only [follow, List.getElem?_eq_getElem more, Option.getD_some, course_after next]
        exact ⟨sound _ ‹_›, y, later, rest⟩
      · cases later
    · rw [List.drop_eq_nil_of_le (Nat.le_of_not_lt more)] at onward
      rw [List.drop_eq_nil_of_le (by omega)]
      simp only [follow, List.getElem?_eq_none (Nat.le_of_not_lt more), Option.getD_none]
      refine ⟨steady _ _ held, _, rfl, fun stage t due => ?_⟩
      exact (Option.some.inj onward ▸ rest) stage t due

theorem follow_step (n : ℕ) :
    Step pace (follow pace cues j n) (follow pace cues j (n + 1)) := by
  obtain ⟨-, y, onward, rest⟩ := follow_rest sound steady now followed rest n
  apply step_after
  by_cases more : n < cues.length
  · rw [List.drop_eq_getElem_cons more] at onward
    obtain ⟨z, next, -⟩ := Option.bind_eq_some_iff.mp onward
    rw [List.getElem?_eq_getElem more]
    exact Course.apt_of_cue next
  · rw [List.drop_eq_nil_of_le (Nat.le_of_not_lt more)] at onward
    rw [List.getElem?_eq_none (Nat.le_of_not_lt more)]
    refine ⟨Nat.le_succ _, fun t due => ?_⟩
    exact absurd due ((Option.some.inj onward ▸ rest) _ t)

/-- A run that comes to rest goes on for ever. -/
def ofCues : Endless pace holds where
  state := follow pace cues j
  step := follow_step sound steady now followed rest
  throughout := fun n => (follow_rest sound steady now followed rest n).1
  passes := by
    have passed (k : ℕ) : k ≤ (follow pace cues j (cues.length + k)).time := by
      induction k with
      | zero => exact Nat.zero_le _
      | succ k ih =>
        rw [← Nat.add_assoc, follow, List.getElem?_eq_none (Nat.le_add_right _ _)]
        exact Nat.succ_le_succ ih
    exact fun time => ⟨cues.length + time, passed time⟩

end Follow
end Endless
end Journal

open Journal in
/-- **Every call of a scheduler ends in time, but for the one that closes the connection.** However
late the storage and the broker answer, and if they never do: each call of a worker has ended at most
`operationTimeout` after it was made, by its answer or because it was cut off. The call that closes
the connection takes as long as it takes by itself, however long that is, and a scheduler that has
stopped has waited for it. From any point of any run: if the scheduler is cancelled from then on, then
whatever calls hang both workers come to their end, and the scheduler stops unless the connection is
never closed. Only a tick that is due whenever a worker waits, and that chance prefers to the
cancellation each time, could keep a worker going. -/
theorem calls_end_in_time_but_closing {pace : Pace} {holds : Stage → Prop} {j : Journal}
    (unbroken : ∀ s, holds s → ∀ c, s.faults.find? c ≠ some .crash)
    (run : Journal.Run pace holds j) :
    (∀ r ∈ j.calls, ¬ Closes r.call → r.InTime pace.operationTimeout j.time) ∧
    (∀ r ∈ j.calls, Closes r.call → r.Takes r.latency j.time) ∧
    (j.course.scheduler.supervision = .stopped → ∀ r ∈ j.calls, r.ended ≠ none) ∧
    ∀ later : Endless pace holds, later.state 0 = j → (∀ n, (later.state n).isCancelled = true) →
      later.Fair → ∃ n, let last := later.state n
        (last.course.scheduler.dispatcher.isOver = true ∧
          last.course.scheduler.cleaner.isOver = true) ∧
        ((∀ r ∈ last.calls, Closes r.call → r.latency ≠ none) →
          last.course.scheduler.supervision = .stopped) := by
  have kept := Kept.run unbroken run
  refine ⟨kept.inTime, kept.takes, kept.all_ended, ?_⟩
  intro later begins cancelled fair
  have all_kept := later.kept unbroken (begins.symm ▸ kept)
  obtain ⟨n, idle⟩ := later.comes_to_rest_of_fair unbroken all_kept cancelled fair
  obtain ⟨ended, stopped | ⟨r, member, closes, never⟩⟩ := (all_kept n).settled idle
  · exact ⟨n, ended, fun _ => stopped⟩
  · exact ⟨n, ended, fun answered => absurd never (answered r member closes)⟩

theorem FaultPlan.mem_of_find? {plan : FaultPlan} {c : Call} {f : Fault}
    (h : plan.find? c = some f) : ∃ key, (key, f) ∈ plan := by
  have listed {key : String} (found : plan.lookup key = some f) : (key, f) ∈ plan := by
    obtain ⟨before, behind, rfl, -⟩ := List.lookup_eq_some_iff.mp found
    exact List.mem_append_right _ (.head _)
  unfold FaultPlan.find? at h
  cases own : (subject? c).bind fun id => plan.lookup (label c ++ ":" ++ id) with
  | none =>
    rw [own] at h
    exact ⟨_, listed h⟩
  | some g =>
    rw [own] at h
    obtain ⟨id, -, found⟩ := Option.bind_eq_some_iff.mp own
    exact ⟨_, listed (found.trans h)⟩

namespace Parting

/-- A call of a worker may take 200 ms. -/
def brief : Pace := ⟨.ofSeconds 60, ⟨200⟩, 0⟩

/-- Queries for reminders are never answered. -/
def mute : Stage := { TwoCycles.sluggish with faults := [("find_by_remind_in", .hang)] }

/-- Nobody changes what is planned, and who is cancelled and may stop stops. -/
def muted (s : Stage) : Bool := decide (s.faults = mute.faults ∧ s.chance.tick = false)

theorem muted_unbroken (s : Stage) (h : muted s = true) (c : Call) :
    s.faults.find? c ≠ some .crash := by
  intro planned
  have faults : s.faults = mute.faults := (of_decide_eq_true h).1
  rw [faults] at planned
  obtain ⟨key, member⟩ := FaultPlan.mem_of_find? planned
  cases List.mem_singleton.mp member

/-- The first dispatch cycle has made its query. -/
def intoQuery : List Course.Cue :=
  [.supervisor, .dispatcher, .cleaner, .wait 60000, .dispatcher, .dispatcher]

def toTheEnd : List Course.Cue :=
  [.cleaner, .wait 60200, .dispatcher, .dispatcher, .dispatcher, .supervisor, .supervisor,
    .supervisor]

/-- The scheduler is cancelled while the query hangs. -/
def hanging : Journal :=
  let j := intoQuery.foldl (Journal.after brief) (.start (mute.seat none) mute)
  j.withStage j.course.stage.cancel

theorem hanging_run : Journal.Run brief (muted · = true) hanging := by
  have begun : Journal.Run brief (muted · = true) (.start (mute.seat none) mute) :=
    .start (mute.seat none) (decide_eq_true ⟨rfl, rfl⟩)
  have first : ((Course.start (mute.seat none) mute).follow? brief muted intoQuery).isSome = true := by
    cbv
  obtain ⟨x, reached⟩ := Option.isSome_iff_exists.mp first
  obtain ⟨run, -⟩ := begun.follow (fun _ same => same) reached
  exact .step run (.others _ rfl (Nat.le_refl _) fun _ _ => Nat.le_max_right _ _) run.now

theorem hanging_ends : ∃ x, hanging.course.follow? brief muted toTheEnd = some x ∧
    Journal.Endless.AtRest x := by
  have outcome : (hanging.course.follow? brief muted toTheEnd).map (fun x =>
      (x.scheduler.dispatcher.isOver && x.scheduler.cleaner.isOver && x.scheduler.isOver)) =
      some true := by
    cbv
  obtain ⟨x, followed, ended⟩ := Option.map_eq_some_iff.mp outcome
  simp only [Bool.and_eq_true] at ended
  exact ⟨x, followed, Journal.Endless.atRest_of_over ended.1.1 ended.1.2 ended.2⟩

/-- The scheduler is cancelled while a query hangs. The query is in time and both workers come to their
end. -/
theorem hanging_query_cut_off : ∃ later : Journal.Endless brief (muted · = true),
    (∀ s, muted s = true → ∀ c, s.faults.find? c ≠ some .crash) ∧
    Journal.Run brief (muted · = true) hanging ∧ later.state 0 = hanging ∧
    (∀ n, (later.state n).isCancelled = true) ∧ later.Fair ∧
    hanging.calls.map (fun r => (r.begun, r.latency, r.ended)) = [(60000, none, none)] ∧
    (∀ r ∈ hanging.calls, ¬ Journal.Closes r.call →
      r.InTime brief.operationTimeout hanging.time) ∧
    ∃ n, (later.state n).course.scheduler.dispatcher.isOver = true ∧
      (later.state n).course.scheduler.cleaner.isOver = true := by
  obtain ⟨x, followed, rest⟩ := hanging_ends
  have steady (s : Stage) (time : Nat) (h : muted s = true) : muted { s with time } = true := h
  let later : Journal.Endless brief (muted · = true) :=
    .ofCues (fun _ same => same) steady hanging_run.now followed rest
  have cancelled (n : ℕ) : (later.state n).isCancelled = true := by
    by_cases early : n < 9
    · have all : (List.range 9).all (fun n =>
          (Journal.Endless.follow brief toTheEnd hanging n).isCancelled) = true := by
        cbv
      exact List.all_eq_true.mp all n (List.mem_range.mpr early)
    · -- all cues are followed, and only time passes
      induction n, Nat.le_of_not_lt early using Nat.le_induction with
      | base => cbv
      | succ n followed ih =>
        have idle : toTheEnd[n]? = none := List.getElem?_eq_none (Nat.le_of_succ_le followed)
        change (Journal.Endless.follow brief toTheEnd hanging (n + 1)).isCancelled = true
        rw [Journal.Endless.follow, idle]
        exact ih (Nat.not_lt.mpr followed)
  have heard (n : ℕ) : (later.state n).course.stage.chance.tick = false :=
    (of_decide_eq_true (later.throughout n)).2
  have fair : later.Fair := by
    constructor
    · intro often
      obtain ⟨n, -, chooses⟩ := often 0
      exact ⟨n, chooses, heard n⟩
    · intro often
      obtain ⟨n, -, chooses⟩ := often 0
      exact ⟨n, chooses, heard n⟩
  obtain ⟨inTime, -, -, ends⟩ := calls_end_in_time_but_closing muted_unbroken hanging_run
  obtain ⟨n, ended, -⟩ := ends later rfl cancelled fair
  exact ⟨later, muted_unbroken, hanging_run, rfl, cancelled, fair, by cbv, inTime, n, ended⟩

/-- The scheduler is cancelled from the outset. Something is planned for closing the connection. -/
def parting (fault : Fault) : Stage :=
  { TwoCycles.sluggish with
    faults := [("producer.close_connection", fault)]
    cancelled := [0] }

def seat : Seat := (parting .hang).seat none

/-- Nobody changes what is planned. -/
def planned (fault : Fault) (s : Stage) : Bool := decide (s.faults = (parting fault).faults)

/-- The workers end before their first cycles, and the connection is to be closed. -/
def toTheClosing : List Course.Cue :=
  [.supervisor, .dispatcher, .cleaner, .dispatcher, .cleaner, .supervisor, .supervisor]

/-- A run in which nobody else takes part. -/
theorem run_of_cues (fault : Fault) (cues : List Course.Cue) (followed : ((Course.start seat
    (parting fault)).follow? brief (planned fault) cues).isSome = true) :
    Journal.Run brief (planned fault · = true)
      (cues.foldl (Journal.after brief) (.start seat (parting fault))) := by
  obtain ⟨x, reached⟩ := Option.isSome_iff_exists.mp followed
  have begun : Journal.Run brief (planned fault · = true) (.start seat (parting fault)) :=
    .start seat (decide_eq_true rfl)
  exact (begun.follow (fun _ same => same) reached).1

/-- If closing the connection takes a second, the scheduler waits for it five times as long as it may.
If it never ends, the scheduler never stops. -/
theorem closing_overruns :
    (∃ j, Journal.Run brief (planned (.slow 1000) · = true) j ∧ j.isCancelled = true ∧
      j.calls = [⟨.produce .closeConnection, 0, some 1000, some 1000⟩] ∧
      ¬ ∀ r ∈ j.calls, r.InTime brief.operationTimeout j.time) ∧
    ∃ j, Journal.Run brief (planned .hang · = true) j ∧ j.isCancelled = true ∧
      j.course.scheduler.isOver = false ∧ ∀ t, ¬ j.course.Due t := by
  constructor
  · have run := run_of_cues (.slow 1000) (toTheClosing ++ [.wait 1000, .supervisor, .supervisor])
      (by cbv)
    refine ⟨_, run, by cbv, by cbv, fun all => ?_⟩
    have late := all ⟨.produce .closeConnection, 0, some 1000, some 1000⟩ (.head _)
    simp [Spell.InTime, brief] at late
  · have run := run_of_cues .hang toTheClosing (by cbv)
    generalize last : toTheClosing.foldl (Journal.after brief) (.start seat (parting .hang)) = j
      at run
    have outcome : (j.isCancelled, j.course.scheduler.isOver,
        j.course.scheduler.dispatcherDue j.course.stage,
        j.course.scheduler.cleanerDue j.course.stage, j.course.scheduler.due j.course.stage) =
        (true, false, none, none, none) := by
      subst last
      cbv
    simp only [Prod.mk.injEq] at outcome
    obtain ⟨cancelled, going, dispatcher, cleaner, supervisor⟩ := outcome
    refine ⟨j, run, cancelled, going, ?_⟩
    rintro t (due | due | due)
    · rw [dispatcher] at due
      cases due
    · rw [cleaner] at due
      cases due
    · rw [supervisor] at due
      cases due

end Parting
end Rehearsal
end Agenda
