import Agenda.Proofs.Scheduler.Run
import Agenda.Proofs.Storage.Query
import Agenda.Proofs.Window

/-! When dispatch cycles begin. A cycle waits for the one before, and the ticker does not make up
for the time that was lost, so a cycle that takes longer than the interval leaves out what lies
between the end of its window and its own end. -/
namespace Agenda.Rehearsal

/-- What the clock reads, from what it read in the beginning. -/
def clockAt (base : Int) (time : Nat) : Timestamp := .clamp (base + time / 1000)

/-- The next tick is due a period after the last one was heard. It may be due a little earlier, as
a tick that is heard a little late does not move the next one. -/
structure Aims (period begun : Nat) (t : Ticker) : Prop where
  keeps : t.period = period
  due_le : t.due ≤ begun + period
  le_due : begun + period ≤ t.due + Ticker.tolerance

theorem heard_aims {t : Ticker} {now : Nat} (late : t.due ≤ now) :
    Aims t.period now (t.heard now) := by
  unfold Ticker.heard
  split
  · exact ⟨rfl, Nat.le_refl _, Nat.le_add_right _ _⟩
  · exact ⟨rfl, by dsimp; omega, by dsimp; omega⟩

/-- The later cycle begins when it is due or, if it has to wait for the earlier one, when that has
ended. -/
def Paced (period : Nat) (later earlier : Round) : Prop :=
  ∃ t stop, Aims period earlier.begun t ∧ earlier.stop = some stop ∧ earlier.begun ≤ stop ∧
    later.begun = max t.due stop

/-- How the dispatcher stands to the cycles that it has gone through. -/
def Standing (period time : Nat) : Worker Dispatch → List Round → Prop
  | .fresh, rounds => rounds = []
  | .waiting t, [] => t.period = period ∧ period / 1000 ≤ Ticker.horizon
  | .waiting t, r :: _ => Aims period r.begun t ∧
      ∃ stop, r.stop = some stop ∧ r.begun ≤ stop ∧ stop ≤ time ∧ time ≤ max t.due stop
  | .cycling t _, r :: _ => Aims period r.begun t ∧ r.stop = none ∧ r.begun ≤ time
  | .cycling _ _, [] => False
  | .ended, _ | .failed, _ => True

structure Timed (pace : Pace) (x : Course) : Prop where
  fresh : x.scheduler.isFresh = true → x.scheduler.dispatcher = .fresh
  standing : Standing pace.interval.milliseconds x.stage.time x.scheduler.dispatcher x.rounds
  bounded : x.rounds ≠ [] → pace.interval.milliseconds / 1000 ≤ Ticker.horizon
  paced : x.rounds.IsChain (Paced pace.interval.milliseconds)
  windows : ∀ r ∈ x.rounds,
    r.window = Dispatch.window (clockAt x.stage.base r.begun) pace.interval

theorem Scheduler.isFresh_of_running {x : Scheduler} (running : x.supervision ≠ .fresh) :
    x.isFresh = false := by
  unfold isFresh
  split
  · exact absurd ‹_› running
  · rfl

namespace Timed

variable {pace : Pace} {x : Course}

theorem start (pace : Pace) (seat : Seat) (stage : Stage) : Timed pace (.start seat stage) where
  fresh := fun _ => rfl
  standing := rfl
  bounded := fun some => absurd rfl some
  paced := .nil
  windows := by intro r hr; cases hr

/-- What does not touch the dispatcher or the time keeps everything. -/
theorem frame (h : Timed pace x) {y : Course}
    (dispatcher : y.scheduler.dispatcher = x.scheduler.dispatcher) (rounds : y.rounds = x.rounds)
    (fresh : y.scheduler.isFresh = true → x.scheduler.isFresh = true)
    (same : SameTime x.stage y.stage) : Timed pace y where
  fresh := fun hf => dispatcher.trans (h.fresh (fresh hf))
  standing := by rw [dispatcher, rounds, same.1]; exact h.standing
  bounded := rounds ▸ h.bounded
  paced := rounds ▸ h.paced
  windows := by rw [rounds, same.2]; exact h.windows

section Dispatcher

variable {supervision : Supervision} {cleaner : Worker Cleanup} {seat : Seat} {stage : Stage}
  {rounds : List Round} {t : Ticker}

/-- A cycle begins. -/
theorem begin (h : Timed pace ⟨⟨supervision, .waiting t, cleaner, seat⟩, stage, rounds⟩)
    (running : supervision ≠ .fresh) (late : t.due ≤ stage.time) :
    Timed pace ⟨⟨supervision, .cycling (t.heard stage.time)
      (.start (Cycle.start stage.clock pace.interval)), cleaner, seat⟩, stage,
      ⟨stage.time, Dispatch.window stage.clock pace.interval, [], none⟩ :: rounds⟩ := by
  obtain ⟨-, standing, bounded, paced, windows⟩ := h
  constructor
  · intro fresh
    rw [Scheduler.isFresh_of_running running] at fresh
    cases fresh
  · have period : t.period = pace.interval.milliseconds := by
      cases rounds with
      | nil => exact standing.1
      | cons r _ => exact standing.1.keeps
    exact ⟨period ▸ heard_aims late, rfl, Nat.le_refl _⟩
  · intro _
    cases rounds with
    | nil => exact standing.2
    | cons r _ => exact bounded (List.cons_ne_nil _ _)
  · cases rounds with
    | nil => exact .singleton _
    | cons r earlier =>
      obtain ⟨aims, stop, stopped, lasted, past, due⟩ := standing
      apply List.isChain_cons_cons.mpr
      constructor
      · refine ⟨t, stop, aims, stopped, lasted, ?_⟩
        dsimp only at *
        omega
      · exact paced
  · intro r hr
    rcases List.mem_cons.mp hr with rfl | hr
    · rfl
    · exact windows r hr

/-- A cycle goes on, ends or breaks off. -/
theorem proceed {p : Performer Dispatch} {w : Worker Dispatch}
    (h : Timed pace ⟨⟨supervision, .cycling t p, cleaner, seat⟩, stage, rounds⟩)
    (running : supervision ≠ .fresh) {stage' : Stage} (same : SameTime stage stage') {seat' : Seat}
    (next : w = .failed ∨ w = .waiting t ∨ ∃ p', w = .cycling t p') :
    Timed pace ⟨⟨supervision, w, cleaner, seat'⟩, stage',
      chronicle stage.time (.cycling t p) w rounds⟩ := by
  obtain ⟨-, standing, bounded, paced, windows⟩ := h
  have fresh : Scheduler.isFresh ⟨supervision, w, cleaner, seat'⟩ = true → w = .fresh := by
    intro fresh
    rw [Scheduler.isFresh_of_running running] at fresh
    cases fresh
  cases rounds with
  | nil => cases standing
  | cons r earlier =>
    obtain ⟨aims, unended, begun⟩ := standing
    replace bounded := bounded (List.cons_ne_nil _ _)
    have chain (q : Round) (begun : q.begun = r.begun) :
        (q :: earlier).IsChain (Paced pace.interval.milliseconds) := by
      apply paced.imp_head
      rintro _ ⟨t, stop, aims, stopped, lasted, due⟩
      exact ⟨t, stop, aims, stopped, lasted, begun.trans due⟩
    have known (q : Round) (begun : q.begun = r.begun) (window : q.window = r.window) :
        ∀ q' ∈ q :: earlier,
          q'.window = Dispatch.window (clockAt stage'.base q'.begun) pace.interval := by
      intro q' hq'
      rw [same.2]
      rcases List.mem_cons.mp hq' with rfl | hq'
      · rw [window, begun]
        exact windows r (.head _)
      · exact windows q' (.tail _ hq')
    rcases next with rfl | rfl | ⟨p', rfl⟩
    · exact ⟨fresh, trivial, fun _ => bounded, chain _ rfl, known _ rfl rfl⟩
    · have waits : stage'.time ≤ max t.due stage.time := by
        rw [same.1]
        exact Nat.le_max_right _ _
      have ended : stage.time ≤ stage'.time := Nat.le_of_eq same.1.symm
      exact ⟨fresh, ⟨aims, stage.time, rfl, begun, ended, waits⟩, fun _ => bounded, chain _ rfl,
        known _ rfl rfl⟩
    · have begun : r.begun ≤ stage'.time := by
        rw [same.1]
        exact begun
      exact ⟨fresh, ⟨aims, unended, begun⟩, fun _ => bounded, chain _ rfl, known _ rfl rfl⟩

end Dispatcher

theorem dispatch (h : Timed pace x) {time : Nat}
    (due : x.scheduler.dispatcherDue x.stage = some time) (past : time ≤ x.stage.time) :
    Timed pace (x.dispatch pace) := by
  obtain ⟨⟨supervision, worker, cleaner, seat⟩, stage, rounds⟩ := x
  have running : supervision ≠ .fresh := by
    rintro rfl
    cases due
  have notFresh (w : Worker Dispatch) (seat' : Seat) :
      Scheduler.isFresh ⟨supervision, w, cleaner, seat'⟩ ≠ true := by
    rw [Scheduler.isFresh_of_running running]
    exact Bool.false_ne_true
  simp only [Course.dispatch, Scheduler.stepDispatcher, Scheduler.scene]
  have same := SameTime.worker pace worker ⟨seat, stage⟩
  cases worker with
  | fresh =>
    obtain ⟨-, standing, -, -, -⟩ := h
    obtain rfl : rounds = [] := standing
    simp only [Worker.step]
    split
    · exact ⟨fun fresh => absurd fresh (notFresh _ _), trivial, fun some => absurd rfl some, .nil,
        by simp [chronicle]⟩
    · rename_i t set_up
      have aims : t.period = pace.interval.milliseconds ∧
          pace.interval.milliseconds / 1000 ≤ Ticker.horizon := by
        unfold Ticker.start? at set_up
        split at set_up
        · cases set_up
        · split at set_up <;> cases set_up
          exact ⟨rfl, by omega⟩
      exact ⟨fun fresh => absurd fresh (notFresh _ _), aims, fun some => absurd rfl some, .nil,
        by simp [chronicle]⟩
  | waiting t =>
    rcases Worker.step_waiting (σ := Dispatch) pace t ⟨seat, stage⟩ with
      ends | fails | ⟨stays, -, begins⟩
    · rw [ends]
      exact ⟨fun fresh => absurd fresh (notFresh _ _), trivial, h.bounded, h.paced, h.windows⟩
    · rw [fails]
      exact ⟨fun fresh => absurd fresh (notFresh _ _), trivial, h.bounded, h.paced, h.windows⟩
    · rw [begins]
      apply h.begin running
      have due : Worker.due (.waiting t : Worker Dispatch) ⟨seat, stage⟩ = some time := by
        simp only [Scheduler.dispatcherDue, notFresh] at due
        exact due
      exact Scene.tick_due stays due past
  | cycling t p =>
    apply h.proceed running same
    simp only [Worker.step]
    split
    · exact .inr (.inl rfl)
    · exact .inl rfl
    · exact .inr (.inr ⟨_, rfl⟩)
  | ended => exact ⟨h.fresh, trivial, h.bounded, h.paced, h.windows⟩
  | failed => exact ⟨h.fresh, trivial, h.bounded, h.paced, h.windows⟩

/-- Time passes at most up to the next tick. -/
theorem others (h : Timed pace x) {stage : Stage} (clock : stage.base = x.stage.base)
    (later : x.stage.time ≤ stage.time)
    (punctual : ∀ t, x.Due t → stage.time ≤ max t x.stage.time) :
    Timed pace { x with stage } := by
  refine ⟨h.fresh, ?_, h.bounded, h.paced, fun r hr => clock ▸ h.windows r hr⟩
  obtain ⟨fresh, standing, -, -, -⟩ := h
  obtain ⟨⟨supervision, worker, cleaner, seat⟩, now, rounds⟩ := x
  cases worker with
  | fresh => exact standing
  | waiting t =>
    cases rounds with
    | nil => exact standing
    | cons r earlier =>
      obtain ⟨aims, stop, stopped, lasted, past, due⟩ := standing
      refine ⟨aims, stop, stopped, lasted, Nat.le_trans past later, ?_⟩
      have running : Scheduler.isFresh ⟨supervision, .waiting t, cleaner, seat⟩ ≠ true := by
        intro unstarted
        cases fresh unstarted
      -- the next tick is what the dispatcher waits for, unless it is cancelled and due at once
      have waiting : Scheduler.dispatcherDue ⟨supervision, .waiting t, cleaner, seat⟩ now =
          some (if Scene.isCancelled ⟨seat, now⟩ then now.time else max t.due now.time) := by
        unfold Scheduler.dispatcherDue
        rw [if_neg running]
        rfl
      have waits := punctual _ (.inl waiting)
      dsimp only at waits due ⊢
      split at waits <;> omega
  | cycling t p =>
    cases rounds with
    | nil => cases standing
    | cons r earlier =>
      obtain ⟨aims, unended, begun⟩ := standing
      exact ⟨aims, unended, Nat.le_trans begun later⟩
  | ended => trivial
  | failed => trivial

/-- The scheduler itself never starts anew. -/
theorem isFresh_step {s : Scheduler} {stage : Stage}
    (fresh : (s.step pace stage).1.isFresh = true) : s.isFresh = true := by
  unfold Scheduler.step at fresh
  split at fresh
  · cases fresh
  · cases fresh
  · rename_i p closing
    cases hp : (p.step none (s.scene stage)).1.phase <;> simp [hp, Scheduler.isFresh] at fresh
  · exact fresh
  · exact fresh

theorem dispatcher_step (s : Scheduler) (stage : Stage) :
    (s.step pace stage).1.dispatcher = s.dispatcher := by
  unfold Scheduler.step
  split <;> rfl

theorem step {y : Course} (h : Timed pace x) (hs : Course.Step pace x y) : Timed pace y := by
  cases hs with
  | dispatcher due past => exact h.dispatch due past
  | cleaner => exact h.frame rfl rfl (fun fresh => fresh) (SameTime.worker _ _ _)
  | supervisor =>
    exact h.frame (dispatcher_step _ _) rfl isFresh_step (SameTime.scheduler _ _ _)
  | others stage clock later punctual => exact h.others clock later punctual

theorem run {holds : Stage → Prop} (h : Course.Run pace holds x) : Timed pace x := by
  induction h with
  | start seat _ => exact start pace seat _
  | step _ hs _ ih => exact ih.step hs

end Timed

/-! ## What the windows leave out -/

/-- The instant is between the end of the window of a cycle and the end of the cycle itself. -/
def LeftOut (base : Int) (interval : Nat) (r : Round) (s : Timestamp) : Prop :=
  ∃ stop, r.stop = some stop ∧ r.window.start.seconds + interval ≤ s.seconds ∧
    s.seconds < (clockAt base stop).seconds

/-- The later cycle comes right after the earlier one. -/
def Successive (rounds : List Round) (earlier later : Round) : Prop := [later, earlier] <:+: rounds

theorem clockAt_mono (base : Int) {a b : Nat} (h : a ≤ b) :
    (clockAt base a).seconds ≤ (clockAt base b).seconds := by
  simp only [clockAt, Timestamp.clamp]
  omega

/-- The cycles of a run with an interval in whole seconds, the last first. -/
structure Spaced (base : Int) (interval : Nat) (rounds : List Round) : Prop where
  positive : 1 ≤ interval
  bounded : rounds ≠ [] → interval ≤ Ticker.horizon
  paced : rounds.IsChain (Paced (1000 * interval))
  windows : ∀ r ∈ rounds, r.window = Dispatch.window (clockAt base r.begun) (.ofSeconds interval)

theorem Timed.spaced {pace : Pace} {x : Course} {interval : Nat} (h : Timed pace x)
    (seconds : pace.interval = .ofSeconds interval) (positive : 1 ≤ interval) :
    Spaced x.stage.base interval x.rounds where
  positive := positive
  bounded := fun some => by
    have := h.bounded some
    rw [seconds] at this
    simp only [Duration.ofSeconds] at this
    omega
  paced := by
    have := h.paced
    rw [seconds] at this
    exact this
  windows := seconds ▸ h.windows

section Rounds

variable {base : Int} {interval : Nat} {r earlier later first last : Round} {rounds : List Round}
  {s : Timestamp}

theorem Paced.begun_le (h : Paced (1000 * interval) later earlier) :
    earlier.begun ≤ later.begun := by
  obtain ⟨t, stop, -, -, lasted, begun⟩ := h
  omega

/-- The later cycle begins in the window of the earlier one or right after it, unless it had to
wait for the earlier one to end. -/
theorem Paced.start_le_iff (base : Int) (h : Paced (1000 * interval) later earlier) :
    ∃ stop, earlier.stop = some stop ∧
      ((clockAt base later.begun).seconds ≤ (clockAt base earlier.begun).seconds + interval ↔
        (clockAt base stop).seconds ≤ (clockAt base earlier.begun).seconds + interval) ∧
      ((clockAt base earlier.begun).seconds + interval < (clockAt base stop).seconds →
        later.begun = stop) := by
  obtain ⟨t, stop, aims, stopped, -, begun⟩ := h
  have due := aims.due_le
  refine ⟨stop, stopped, ?_, ?_⟩ <;> rw [begun] <;> simp only [clockAt, Timestamp.clamp] <;> omega

namespace Spaced

theorem tail (h : Spaced base interval (r :: rounds)) : Spaced base interval rounds where
  positive := h.positive
  bounded := fun _ => h.bounded (List.cons_ne_nil _ _)
  paced := h.paced.tail
  windows := fun q hq => h.windows q (.tail _ hq)

theorem start (h : Spaced base interval rounds) (hr : r ∈ rounds) :
    r.window.start = clockAt base r.begun := by
  rw [h.windows r hr]
  rfl

theorem contains_iff (h : Spaced base interval rounds) (hr : r ∈ rounds) :
    r.window.contains s = true ↔ (clockAt base r.begun).seconds ≤ s.seconds ∧
      s.seconds < (clockAt base r.begun).seconds + interval := by
  rw [h.windows r hr]
  exact Dispatch.window_contains_iff h.positive (h.bounded (List.ne_nil_of_mem hr))

theorem begun_sorted (h : Spaced base interval rounds) :
    rounds.Pairwise fun later earlier => earlier.begun ≤ later.begun := by
  have : Trans (fun later earlier : Round => earlier.begun ≤ later.begun)
      (fun later earlier : Round => earlier.begun ≤ later.begun)
      (fun later earlier : Round => earlier.begun ≤ later.begun) :=
    ⟨fun h h' => Nat.le_trans h' h⟩
  exact (h.paced.imp fun _ _ => Paced.begun_le).pairwise

theorem paced_of_successive (h : Spaced base interval rounds)
    (next : Successive rounds earlier later) : Paced (1000 * interval) later earlier := by
  have pair := List.IsChain.infix h.paced next
  exact (List.isChain_cons_cons.mp pair).1

/-- Every cycle but the last has ended, and if that has ended too, all have. -/
theorem ended (h : Spaced base interval rounds)
    (last_ended : ∀ last, rounds.head? = some last → last.stop ≠ none) :
    ∀ r ∈ rounds, r.stop ≠ none := by
  induction rounds with
  | nil =>
    intro r hr
    cases hr
  | cons q rest ih =>
    intro r hr
    rcases List.mem_cons.mp hr with rfl | hr
    · exact last_ended r rfl
    · refine ih h.tail ?_ r hr
      intro last head
      cases rest with
      | nil => cases head
      | cons p older =>
        cases head
        obtain ⟨t, stop, -, stopped, -⟩ := (List.isChain_cons_cons.mp h.paced).1
        rw [stopped]
        exact Option.some_ne_none stop

/-- What is left out by a cycle is in the window of none. -/
theorem missed (h : Spaced base interval rounds) (next : Successive rounds earlier later)
    (out : LeftOut base interval earlier s) (hr : r ∈ rounds) : r.window.contains s = false := by
  obtain ⟨stop, stopped, lo, hi⟩ := out
  obtain ⟨stop', stopped', -, waits⟩ := (h.paced_of_successive next).start_le_iff base
  obtain rfl : stop = stop' := Option.some.inj (stopped.symm.trans stopped')
  have sorted := h.begun_sorted
  obtain ⟨newer, older, split⟩ := next
  rw [List.append_assoc] at split
  subst split
  rw [h.start (by simp)] at lo
  have begun := waits (by omega)
  rw [Bool.eq_false_iff, ne_eq, h.contains_iff hr]
  rintro ⟨from_start, to_stop⟩
  obtain ⟨-, pair, across⟩ := List.pairwise_append.mp sorted
  rcases List.mem_append.mp hr with newer | hr
  · have order := clockAt_mono base (across r newer later (.head _))
    rw [begun] at order
    omega
  · rcases List.mem_cons.mp hr with rfl | hr
    · rw [begun] at from_start
      omega
    · have order : r.begun ≤ earlier.begun := by
        rcases List.mem_cons.mp hr with rfl | older
        · exact Nat.le_refl _
        · exact (List.pairwise_cons.mp (List.pairwise_cons.mp pair).2).1 r older
      have order := clockAt_mono base order
      omega

/-- What is not in a window is left out by the cycle before. -/
theorem reached (h : Spaced base interval (r :: rounds))
    (lo : ∀ first, (r :: rounds).getLast? = some first →
      (clockAt base first.begun).seconds ≤ s.seconds)
    (hi : s.seconds < (clockAt base r.begun).seconds + interval) :
    (∃ q ∈ r :: rounds, q.window.contains s = true) ∨ ∃ earlier later,
      Successive (r :: rounds) earlier later ∧ LeftOut base interval earlier s := by
  induction rounds generalizing r with
  | nil => exact .inl ⟨r, .head _, (h.contains_iff (.head _)).mpr ⟨lo r rfl, hi⟩⟩
  | cons q rest ih =>
    by_cases after : (clockAt base r.begun).seconds ≤ s.seconds
    · exact .inl ⟨r, .head _, (h.contains_iff (.head _)).mpr ⟨after, hi⟩⟩
    · by_cases before : s.seconds < (clockAt base q.begun).seconds + interval
      · have older := ih h.tail (fun first hf => lo first hf) before
        rcases older with ⟨p, hp, inside⟩ | ⟨e, l, next, out⟩
        · exact .inl ⟨p, .tail _ hp, inside⟩
        · exact .inr ⟨e, l, next.trans (List.suffix_cons _ _).isInfix, out⟩
      · obtain ⟨stop, stopped, in_time, waits⟩ :=
          (List.isChain_cons_cons.mp h.paced).1.start_le_iff base
        have begun := waits (by omega)
        rw [begun] at after
        refine .inr ⟨q, r, ⟨[], rest, rfl⟩, stop, stopped, ?_, by omega⟩
        rw [h.start (.tail _ (.head _))]
        omega

/-- Between the first window and the last, exactly what overrunning cycles leave out is in none. -/
theorem covered_iff (h : Spaced base interval rounds) (hf : rounds.getLast? = some first)
    (hl : rounds.head? = some last) (lo : first.window.start ≤ s) (hi : s ≤ last.window.stop) :
    (∃ r ∈ rounds, r.window.contains s = true) ↔
      ¬ ∃ earlier later, Successive rounds earlier later ∧ LeftOut base interval earlier s := by
  constructor
  · rintro ⟨r, hr, inside⟩ ⟨earlier, later, next, out⟩
    rw [h.missed next out hr] at inside
    cases inside
  · intro never
    cases rounds with
    | nil => cases hl
    | cons r rest =>
      obtain rfl : r = last := Option.some.inj hl
      have within : s.seconds < (clockAt base r.begun).seconds + interval := by
        by_cases after : r.window.start ≤ s
        · exact ((h.contains_iff (.head _)).mp ((TimeSpan.contains_iff _ _).mpr ⟨after, hi⟩)).2
        · rw [h.start (.head _), Timestamp.le_iff] at after
          omega
      have begun (q : Round) (hq : (r :: rest).getLast? = some q) :
          (clockAt base q.begun).seconds ≤ s.seconds := by
        obtain rfl : first = q := Option.some.inj (hf.symm.trans hq)
        rw [← h.start (List.mem_of_getLast? hf)]
        exact lo
      rcases h.reached begun within with inside | out
      · exact inside
      · exact absurd out never

end Spaced
end Rounds
end Agenda.Rehearsal
