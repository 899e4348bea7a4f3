import Mathlib
import Agenda.Proofs.Scheduler.Publishing

/-! The windows of cycles that keep up. Their ticks come on an even schedule, so that the windows lie
side by side, and a reminder is published by the one cycle that it is for. -/
namespace Agenda.Rehearsal

/-! ## Ticks -/

/-- Cycles end before the next tick is due. -/
def KeepUp (period : Nat) (rounds : List Round) : Prop :=
  ∀ r ∈ rounds, ∀ stop, r.stop = some stop → stop ≤ r.begun + period

/-- The cycles, the last first, have begun a period after each other. -/
def Even (start period : Nat) : List Round → Prop
  | [] => True
  | r :: earlier => r.begun = start + (earlier.length + 1) * period ∧ Even start period earlier

theorem Even.begun {start period : Nat} {rounds : List Round} (h : Even start period rounds)
    {k : Nat} {r : Round} (nth : rounds.reverse[k]? = some r) :
    r.begun = start + (k + 1) * period := by
  induction rounds with
  | nil => cases nth
  | cons q earlier ih =>
    obtain ⟨begun, even⟩ := h
    rw [List.reverse_cons, List.getElem?_append, List.length_reverse] at nth
    split at nth
    · exact ih even nth
    · have last : k = earlier.length := by
        have := (List.getElem?_eq_some_iff.mp nth).1
        simp only [List.length_singleton] at this
        omega
      rw [last, Nat.sub_self] at nth
      cases nth
      rw [last]
      exact begun

/-- The tick that the dispatcher waits for, or will wait for, comes on time. -/
def OnTime (start period time : Nat) (rounds : List Round) : Worker Dispatch → Prop
  | .fresh => time = start
  | .waiting t => t.due = start + (rounds.length + 1) * period ∧ time ≤ t.due
  | .cycling t _ => t.due = start + (rounds.length + 1) * period
  | .ended | .failed => True

structure Punctual (origin : Stage) (period : Nat) (x : Course) : Prop where
  base : x.stage.base = origin.base
  even : Even origin.time period x.rounds
  begun : ∀ r ∈ x.rounds, r.begun ≤ x.stage.time
  tick : OnTime origin.time period x.stage.time x.rounds x.scheduler.dispatcher

variable {pace : Pace} {origin : Stage} {x : Course}

namespace Punctual

theorem start (origin : Stage) (period : Nat) (seat : Seat) :
    Punctual origin period (.start seat origin) where
  base := rfl
  even := trivial
  begun := by intro r hr; cases hr
  tick := rfl

theorem frame {period : Nat} (h : Punctual origin period x) {y : Course}
    (dispatcher : y.scheduler.dispatcher = x.scheduler.dispatcher) (rounds : y.rounds = x.rounds)
    (same : SameTime x.stage y.stage) : Punctual origin period y where
  base := same.2.trans h.base
  even := rounds ▸ h.even
  begun := by rw [rounds, same.1]; exact h.begun
  tick := by rw [dispatcher, rounds, same.1]; exact h.tick

end Punctual

theorem start?_eq {uptime now : Nat} {period : Duration} {t : Ticker}
    (set_up : Ticker.start? uptime now period = some t) :
    t = ⟨period.milliseconds, now + period.milliseconds⟩ := by
  unfold Ticker.start? at set_up
  split at set_up
  · cases set_up
  · split at set_up <;> cases set_up
    rfl

/-- A tick that is heard on time is followed by the next a period later. -/
theorem heard_on_time {t : Ticker} {now : Nat} (on_time : t.due = now) :
    t.heard now = { t with due := now + t.period } := by
  unfold Ticker.heard
  rw [if_neg (by omega), on_time]

theorem Standing.period {period time : Nat} {t : Ticker} {rounds : List Round}
    (h : Standing period time (.waiting t) rounds) : t.period = period := by
  cases rounds with
  | nil => exact h.1
  | cons r earlier => exact h.1.keeps

/-- A dispatcher that waits is due at its tick, or at once when it is cancelled. -/
theorem Timed.due_of_waiting {t : Ticker} (h : Timed pace x)
    (waits : x.scheduler.dispatcher = .waiting t) :
    x.scheduler.dispatcherDue x.stage = some (if (x.scheduler.scene x.stage).isCancelled
      then x.stage.time else max t.due x.stage.time) := by
  have running : x.scheduler.isFresh ≠ true := by
    intro unstarted
    rw [h.fresh unstarted] at waits
    cases waits
  rw [Scheduler.dispatcherDue, if_neg running, waits]
  rfl

namespace Punctual

/-- A cycle goes on, ends or breaks off. -/
theorem proceed {supervision : Supervision} {cleaner : Worker Cleanup} {seat seat' : Seat}
    {stage stage' : Stage} {r : Round} {earlier : List Round} {t : Ticker} {p : Performer Dispatch}
    {w : Worker Dispatch} {period : Nat}
    (h : Punctual origin period ⟨⟨supervision, .cycling t p, cleaner, seat⟩, stage, r :: earlier⟩)
    (same : SameTime stage stage')
    (next : w = .failed ∨ w = .waiting t ∨ ∃ p', w = .cycling t p')
    (keeps_up : KeepUp period (chronicle stage.time (.cycling t p) w (r :: earlier))) :
    Punctual origin period ⟨⟨supervision, w, cleaner, seat'⟩, stage',
      chronicle stage.time (.cycling t p) w (r :: earlier)⟩ := by
  obtain ⟨base, ⟨first, even⟩, begun, scheduled⟩ := h
  have still (q : Round) (same_begun : q.begun = r.begun) :
      ∀ q' ∈ q :: earlier, q'.begun ≤ stage'.time := by
    intro q' hq'
    rw [same.1]
    rcases List.mem_cons.mp hq' with rfl | hq'
    · exact same_begun ▸ begun r (.head _)
    · exact begun q' (.tail _ hq')
  rcases next with rfl | rfl | ⟨p', rfl⟩
  · exact ⟨same.2.trans base, ⟨first, even⟩, still _ rfl, trivial⟩
  · refine ⟨same.2.trans base, ⟨first, even⟩, still _ rfl, scheduled, ?_⟩
    have ended : stage.time ≤ r.begun + period := keeps_up _ (.head _) stage.time rfl
    have due : t.due = origin.time + (earlier.length + 1 + 1) * period := scheduled
    have next_tick : t.due = r.begun + period := by
      rw [due, first]
      ring
    rw [next_tick]
    exact same.1.symm ▸ ended
  · exact ⟨same.2.trans base, ⟨first, even⟩, still _ rfl, scheduled⟩

theorem dispatch (h : Punctual origin pace.interval.milliseconds x) (timed : Timed pace x)
    {time : Nat} (due : x.scheduler.dispatcherDue x.stage = some time) (past : time ≤ x.stage.time)
    (keeps_up : KeepUp pace.interval.milliseconds (x.dispatch pace).rounds) :
    Punctual origin pace.interval.milliseconds (x.dispatch pace) := by
  obtain ⟨⟨supervision, worker, cleaner, seat⟩, stage, rounds⟩ := x
  obtain ⟨base, even, begun, tick⟩ := h
  have same := SameTime.worker pace worker ⟨seat, stage⟩
  simp only [Course.dispatch, Scheduler.stepDispatcher, Scheduler.scene] at keeps_up ⊢
  cases worker with
  | fresh =>
    obtain rfl : rounds = [] := timed.standing
    simp only [Worker.step]
    split
    · exact ⟨base, even, begun, trivial⟩
    · rename_i t set_up
      refine ⟨base, even, begun, ?_⟩
      obtain rfl := start?_eq set_up
      have now : stage.time = origin.time := tick
      have scheduled : stage.time + pace.interval.milliseconds =
          origin.time + (0 + 1) * pace.interval.milliseconds := by
        rw [now, Nat.zero_add, Nat.one_mul]
      exact ⟨scheduled, Nat.le_add_right _ _⟩
  | waiting t =>
    rcases Worker.step_waiting (σ := Dispatch) pace t ⟨seat, stage⟩ with
      ends | fails | ⟨stays, -, begins⟩
    · rw [ends]
      exact ⟨base, even, begun, trivial⟩
    · rw [fails]
      exact ⟨base, even, begun, trivial⟩
    · have scheduled : t.due = origin.time + (rounds.length + 1) * pace.interval.milliseconds :=
        tick.1
      have early : t.due ≤ stage.time := by
        rw [timed.due_of_waiting rfl] at due
        exact Scene.tick_due (σ := Dispatch) stays due past
      have now : t.due = stage.time := Nat.le_antisymm early tick.2
      have next_tick : (t.heard stage.time).due =
          origin.time + (rounds.length + 1 + 1) * pace.interval.milliseconds := by
        rw [heard_on_time now]
        change stage.time + t.period = _
        rw [Standing.period timed.standing, ← now, scheduled]
        ring
      rw [begins]
      constructor
      · exact base
      · exact ⟨now.symm.trans scheduled, even⟩
      · intro r hr
        rcases List.mem_cons.mp hr with rfl | hr
        · exact Nat.le_refl _
        · exact begun r hr
      · exact next_tick
  | cycling t p =>
    cases rounds with
    | nil => exact timed.standing.elim
    | cons r earlier =>
      refine proceed ⟨base, even, begun, tick⟩ same ?_ keeps_up
      simp only [Worker.step]
      split
      · exact .inr (.inl rfl)
      · exact .inl rfl
      · exact .inr (.inr ⟨_, rfl⟩)
  | ended => exact ⟨base, even, begun, tick⟩
  | failed => exact ⟨base, even, begun, tick⟩

/-- Time passes at most up to the next tick. -/
theorem others (h : Punctual origin pace.interval.milliseconds x) (timed : Timed pace x)
    {stage : Stage} (clock : stage.base = x.stage.base) (later : x.stage.time ≤ stage.time)
    (punctual : ∀ t, x.Due t → stage.time ≤ max t x.stage.time) :
    Punctual origin pace.interval.milliseconds { x with stage } := by
  have due (t : Ticker) := timed.due_of_waiting (t := t)
  obtain ⟨base, even, begun, tick⟩ := h
  refine ⟨clock.trans base, even, fun r hr => Nat.le_trans (begun r hr) later, ?_⟩
  obtain ⟨⟨supervision, worker, cleaner, seat⟩, now, rounds⟩ := x
  cases worker with
  | fresh =>
    -- whoever has to set up the ticker, or to start the dispatcher, does not wait
    have at_once : Course.Due ⟨⟨supervision, .fresh, cleaner, seat⟩, now, rounds⟩ now.time := by
      cases supervision with
      | fresh => exact .inr (.inr rfl)
      | watching | closing | stopped | crashed => exact .inl rfl
    have waits := punctual _ at_once
    have now_is : now.time = origin.time := tick
    dsimp only at waits later
    change stage.time = origin.time
    omega
  | waiting t =>
    have waits := punctual _ (.inl (due t rfl))
    obtain ⟨scheduled, early⟩ := tick
    refine ⟨scheduled, ?_⟩
    change stage.time ≤ t.due
    dsimp only at waits early later
    split at waits <;> omega
  | cycling t p => exact tick
  | ended => trivial
  | failed => trivial

end Punctual

/-- What holds of the cycles after a step held of those before. -/
theorem KeepUp.before {period : Nat} (timed : Timed pace x)
    (h : KeepUp period (x.dispatch pace).rounds) : KeepUp period x.rounds := by
  obtain ⟨⟨supervision, worker, cleaner, seat⟩, stage, rounds⟩ := x
  simp only [Course.dispatch, Scheduler.stepDispatcher, Scheduler.scene] at h
  cases worker with
  | fresh =>
    simp only [Worker.step] at h
    split at h <;> exact h
  | waiting t =>
    simp only [Worker.step] at h
    split at h
    · exact h
    · split at h
      · exact h
      · intro r hr
        exact h r (.tail _ hr)
  | cycling t p =>
    cases rounds with
    | nil => exact timed.standing.elim
    | cons r earlier =>
      -- nothing is asked yet of the cycle that goes on
      obtain ⟨-, unended, -⟩ := timed.standing
      have older : KeepUp period earlier := by
        simp only [Worker.step] at h
        split at h <;> exact fun q hq => h q (.tail _ hq)
      intro q hq stop stopped
      rcases List.mem_cons.mp hq with rfl | hq
      · rw [unended] at stopped
        cases stopped
      · exact older q hq stop stopped
  | ended => exact h
  | failed => exact h

theorem Punctual.of_diary {holds : Stage → Prop} {published : List (List Bytes)}
    (diary : Diary pace holds origin x published)
    (keeps_up : KeepUp pace.interval.milliseconds x.rounds) :
    Punctual origin pace.interval.milliseconds x := by
  -- what is known of the cycles at the end is handed back step by step
  induction diary with
  | start seat first => exact start origin _ seat
  | dispatcher before due past now ih =>
    have timed := Timed.run before.run
    exact (ih (keeps_up.before timed)).dispatch timed due past keeps_up
  | cleaner before due past now ih => exact (ih keeps_up).frame rfl rfl (SameTime.worker _ _ _)
  | supervisor before due past now ih =>
    exact (ih keeps_up).frame (Timed.dispatcher_step _ _) rfl (SameTime.scheduler _ _ _)
  | others stage before clock later punctual now ih =>
    exact (ih keeps_up).others (.run before.run) clock later punctual

/-! ## Windows -/

/-- The clock has not come to an end of its range. -/
def Stage.InRange (s : Stage) : Prop := s.clock.seconds = s.base + s.time / 1000

/-- The windows lie side by side, the first an interval after the start. -/
def Tiled (start : Int) (interval : Nat) (rounds : List Round) : Prop :=
  ∀ (k : Nat) (r : Round), rounds.reverse[k]? = some r → ∀ s, r.window.contains s = true ↔
    start + (k + 1) * interval ≤ s.seconds ∧ s.seconds < start + (k + 2) * interval

theorem Punctual.tiled {interval : Nat} (h : Punctual origin pace.interval.milliseconds x)
    (spaced : Spaced x.stage.base interval x.rounds) (seconds : pace.interval = .ofSeconds interval)
    (from_start : origin.InRange) (to_end : x.stage.InRange) :
    Tiled origin.clock.seconds interval x.rounds := by
  intro k r nth s
  have member : r ∈ x.rounds := List.mem_reverse.mp (List.mem_of_getElem? nth)
  have begun : (r.begun : Int) = origin.time + (k + 1) * interval * 1000 := by
    rw [h.even.begun nth, seconds, Duration.ofSeconds]
    push_cast
    ring
  have elapsed : (r.begun : Int) / 1000 = origin.time / 1000 + (k + 1) * interval := by
    rw [begun]
    exact Int.add_mul_ediv_right _ _ (by decide)
  have clock : (clockAt x.stage.base r.begun).seconds =
      origin.clock.seconds + (k + 1) * interval := by
    have lower := origin.clock.lower
    have upper := x.stage.clock.upper
    have past := h.begun r member
    have base := h.base
    have ahead : (0 : Int) ≤ (k + 1) * interval := by positivity
    rw [from_start] at lower
    rw [to_end] at upper
    rw [clockAt, Timestamp.clamp_of_mem (by omega) (by omega), from_start, base, elapsed]
    ring
  have next : ((k : Int) + 2) * interval = (k + 1) * interval + interval := by ring
  rw [spaced.contains_iff member, clock, next, add_assoc]

namespace Tiled

variable {start : Int} {interval : Nat} {rounds : List Round} (h : Tiled start interval rounds)
  (positive : 1 ≤ interval)
include h positive

/-- Every instant has one cycle that it is for. -/
theorem contains_iff {k : Nat} {r : Round} (nth : rounds.reverse[k]? = some r) (s : Timestamp) :
    r.window.contains s = true ↔ (s.seconds - start) / interval = k + 1 := by
  have next : ((k : Int) + 2) * interval = (k + 1) * interval + interval := by ring
  rw [h k r nth s, Int.ediv_eq_iff_of_pos (by omega), next]
  omega

theorem disjoint {j k : Nat} {r q : Round} {s : Timestamp} (hr : rounds.reverse[j]? = some r)
    (hq : rounds.reverse[k]? = some q) (inside : r.window.contains s = true)
    (inside' : q.window.contains s = true) : j = k := by
  have turn := (h.contains_iff positive hr s).mp inside
  have turn' := (h.contains_iff positive hq s).mp inside'
  omega

/-- Together the windows leave nothing out. -/
theorem union (s : Timestamp) : (∃ r ∈ rounds, r.window.contains s = true) ↔
    start + interval ≤ s.seconds ∧ s.seconds < start + (rounds.length + 1) * interval := by
  have wide : (0 : Int) < interval := by omega
  have first := Int.le_ediv_iff_mul_le (a := 1) (b := s.seconds - start) wide
  have last := Int.ediv_lt_iff_lt_mul (a := s.seconds - start) (b := rounds.length + 1) wide
  constructor
  · rintro ⟨r, hr, inside⟩
    obtain ⟨k, nth⟩ := List.getElem?_of_mem (List.mem_reverse.mpr hr)
    have bound := (List.getElem?_eq_some_iff.mp nth).1
    rw [List.length_reverse] at bound
    have turn := (h.contains_iff positive nth s).mp inside
    omega
  · rintro ⟨lo, hi⟩
    obtain ⟨k, turn⟩ : ∃ k : Nat, (s.seconds - start) / interval = k + 1 := by
      refine ⟨((s.seconds - start) / interval - 1).toNat, ?_⟩
      omega
    have bound : k < rounds.reverse.length := by
      rw [List.length_reverse]
      omega
    have nth := List.getElem?_eq_getElem bound
    exact ⟨_, List.mem_reverse.mp (List.getElem_mem bound), (h.contains_iff positive nth s).mpr turn⟩

end Tiled

/-! ## Publications -/

section Publications

variable {holds : Stage → Prop} {published : List (List Bytes)} {start : Int} {interval : Nat}
  {k : Nat} {out : List Bytes} {e : Event}
  (diary : Diary pace holds origin x published) (tiled : Tiled start interval x.rounds)
  (positive : 1 ≤ interval) (nth : published.reverse[k]? = some out)
include diary tiled positive nth

/-- Whatever a cycle publishes is of an event that was stored and that the cycle is for. -/
theorem published_in_turn {sent : Bytes} (member : sent ∈ out) :
    ∃ s d, holds s ∧ d ∈ s.service.events.items ∧ sent = payload d ∧
      (d.remindIn.seconds - start) / interval = k + 1 := by
  have kept : Kept holds sent False x published := .of_diary diary fun rough => rough.elim
  obtain ⟨r, nth_round, s, now, within, -⟩ := kept.nth nth
  obtain ⟨d, found, rfl⟩ := List.mem_map.mp (within.subset member)
  obtain ⟨stored, inside⟩ := mem_remindersIn.mp found
  exact ⟨s, d, now, stored, rfl, (tiled.contains_iff positive nth_round d.remindIn).mp inside⟩

omit tiled positive in
theorem published_in_window (stored : ∀ s, holds s → Stored e s) (member : payload e ∈ out) :
    ∃ r ∈ x.rounds, r.window.contains e.remindIn = true := by
  have kept : Kept holds (payload e) False x published := .of_diary diary fun rough => rough.elim
  obtain ⟨r, nth_round, s, now, within, -⟩ := kept.nth nth
  refine ⟨r, List.mem_reverse.mp (List.mem_of_getElem? nth_round), ?_⟩
  exact ((stored s now).payload_mem r.window).mp (within.subset member)

theorem published_once_in_turn (stored : ∀ s, holds s → Stored e s)
    (clear : ∀ s, holds s → Clear pace.operationTimeout (payload e) s.faults)
    (ended : ∀ r ∈ x.rounds, r.stop ≠ none) :
    out.count (payload e) = if (e.remindIn.seconds - start) / interval = k + 1 then 1 else 0 := by
  have kept : Kept holds (payload e) True x published := .of_diary diary fun _ => clear
  obtain ⟨r, nth_round, s, now, -, often⟩ := kept.nth nth
  have member : r ∈ x.rounds := List.mem_reverse.mp (List.mem_of_getElem? nth_round)
  rw [often trivial (ended r member), (stored s now).payload_count r.window]
  simp only [tiled.contains_iff positive nth_round]

end Publications

/-- **Cycles that keep up leave no reminder out and publish none twice.** The windows of cycles that
all end before the next tick lie side by side, from an interval after the start. Whatever the cycle
of a window publishes has its reminder in that window. An event that stays stored is published by no
other cycle than that of its reminder, and by that exactly once if the calls for it go through. -/
theorem windows_tile {pace : Pace} {interval : Nat} {holds : Stage → Prop} {origin : Stage}
    {x : Course} {published : List (List Bytes)} (seconds : pace.interval = .ofSeconds interval)
    (positive : 1 ≤ interval) (diary : Diary pace holds origin x published)
    (keeps_up : KeepUp pace.interval.milliseconds x.rounds)
    (from_start : origin.InRange) (to_end : x.stage.InRange) :
    published.length = x.rounds.length ∧ Tiled origin.clock.seconds interval x.rounds ∧
    (∀ (j k : Nat) (r q : Round) (s : Timestamp), x.rounds.reverse[j]? = some r →
      x.rounds.reverse[k]? = some q → r.window.contains s = true → q.window.contains s = true →
      j = k) ∧
    (∀ s, (∃ r ∈ x.rounds, r.window.contains s = true) ↔
      origin.clock.seconds + interval ≤ s.seconds ∧
        s.seconds < origin.clock.seconds + (x.rounds.length + 1) * interval) ∧
    (∀ (k : Nat) (out : List Bytes), published.reverse[k]? = some out → ∀ sent ∈ out, ∃ s d,
      holds s ∧ d ∈ s.service.events.items ∧ sent = payload d ∧
      (d.remindIn.seconds - origin.clock.seconds) / interval = k + 1) ∧
    ∀ e, (∀ s, holds s → Stored e s) →
      (¬ (origin.clock.seconds + interval ≤ e.remindIn.seconds ∧
          e.remindIn.seconds < origin.clock.seconds + (x.rounds.length + 1) * interval) →
        ∀ out ∈ published, payload e ∉ out) ∧
      ((∀ s, holds s → Clear pace.operationTimeout (payload e) s.faults) →
        (∀ r ∈ x.rounds, r.stop ≠ none) →
        origin.clock.seconds + interval ≤ e.remindIn.seconds →
        e.remindIn.seconds < origin.clock.seconds + (x.rounds.length + 1) * interval →
        ∃ k < x.rounds.length,
          (e.remindIn.seconds - origin.clock.seconds) / interval = k + 1 ∧
          ∀ (j : Nat) (out : List Bytes), published.reverse[j]? = some out →
            out.count (payload e) = if j = k then 1 else 0) := by
  have spaced := (Timed.run diary.run).spaced seconds positive
  have tiled := (Punctual.of_diary diary keeps_up).tiled spaced seconds from_start to_end
  have kept : Kept holds [] False x published := .of_diary diary fun rough => rough.elim
  refine ⟨kept.past.length_eq.symm, tiled, ?_, tiled.union positive, ?_, ?_⟩
  · intro j k r q s hr hq inside inside'
    exact tiled.disjoint positive hr hq inside inside'
  · intro k out nth sent member
    exact published_in_turn diary tiled positive nth member
  · intro e stored
    constructor
    · intro outside out hout member
      obtain ⟨k, nth⟩ := List.getElem?_of_mem (List.mem_reverse.mpr hout)
      have reminded := published_in_window diary nth stored member
      exact outside ((tiled.union positive e.remindIn).mp reminded)
    · intro clear ended lo hi
      obtain ⟨r, hr, inside⟩ := (tiled.union positive e.remindIn).mpr ⟨lo, hi⟩
      obtain ⟨k, nth⟩ := List.getElem?_of_mem (List.mem_reverse.mpr hr)
      have turn := (tiled.contains_iff positive nth e.remindIn).mp inside
      refine ⟨k, ?_, turn, ?_⟩
      · have bound := (List.getElem?_eq_some_iff.mp nth).1
        rwa [List.length_reverse] at bound
      · intro j out nth_out
        rw [published_once_in_turn diary tiled positive nth_out stored clear ended, turn]
        congr 1
        rw [eq_iff_iff]
        omega

namespace TwoCycles

/-- The clock reads 0, and no fault is planned. -/
def brisk : Stage := { sluggish with faults := [] }

def calm (s : Stage) : Bool :=
  decide (s.faults = []) && decide (s.service.events.entries = pair.entries)

/-- Two dispatch cycles, each at its tick, and a cleanup cycle at the first. -/
def briskCycles : List Course.Cue :=
  [.supervisor, .dispatcher, .cleaner, .wait 1000, .dispatcher, .dispatcher, .dispatcher,
    .dispatcher, .dispatcher, .dispatcher, .cleaner, .cleaner, .cleaner, .wait 2000, .dispatcher,
    .dispatcher, .dispatcher, .dispatcher, .dispatcher, .dispatcher]

theorem briskCycles_followed : ∃ x,
    (Course.start (brisk.seat none) brisk).follow? everySecond calm briskCycles = some x ∧
      x.stage.base = 0 ∧ x.stage.time = 2000 ∧
      x.rounds.map (fun r => (r.begun, r.stop)) = [(2000, some 2000), (1000, some 1000)] := by
  have outcome : ((Course.start (brisk.seat none) brisk).follow? everySecond calm
      briskCycles).map (fun x => (x.stage.base, x.stage.time,
        x.rounds.map fun r => (r.begun, r.stop))) =
      some (0, 2000, [(2000, some 2000), (1000, some 1000)]) := by
    cbv
  obtain ⟨x, followed, same⟩ := Option.map_eq_some_iff.mp outcome
  simp only [Prod.mk.injEq] at same
  exact ⟨x, followed, same⟩

theorem clear_of_calm {s : Stage} (h : calm s = true) (limit : Duration) (b : Bytes) :
    Clear limit b s.faults := by
  have none_planned : s.faults = [] := by
    rw [calm, Bool.and_eq_true, decide_eq_true_eq] at h
    exact h.1
  intro c _
  have unplanned : FaultPlan.find? [] c = none := by
    cases found : subject? c <;> simp [FaultPlan.find?, found]
  rw [none_planned, Performer.Passes, unplanned]
  trivial

theorem stored_of_calm {s : Stage} (h : calm s = true) {e : Event}
    (stored : pair.find? e.id = some e) : Stored e s := by
  rw [calm, Bool.and_eq_true, decide_eq_true_eq, decide_eq_true_eq] at h
  have same : s.service.events = pair := Collection.ext h.2
  refine ⟨?_, same ▸ stored⟩
  rw [same]
  apply Collection.keyed_iff_own.mpr
  simp [pair, first, second, reminder]

/-- The second event is published by the second cycle, and by no other. -/
theorem second_published : everySecond.interval = .ofSeconds 1 ∧ 1 ≤ 1 ∧ ∃ x published,
    Diary everySecond (calm · = true) brisk x published ∧
      KeepUp everySecond.interval.milliseconds x.rounds ∧ brisk.InRange ∧ x.stage.InRange ∧
      ∀ (j : Nat) (out : List Bytes), published.reverse[j]? = some out →
        out.count (payload second) = if j = 1 then 1 else 0 := by
  obtain ⟨x, followed, base, time, rounds⟩ := briskCycles_followed
  have begun : Diary everySecond (calm · = true) brisk (.start (brisk.seat none) brisk) [] :=
    .start _ (by decide)
  obtain ⟨published, diary⟩ := begun.follow (fun _ quiet => quiet) followed
  have each (r : Round) (hr : r ∈ x.rounds) : r.stop = some r.begun := by
    have member := List.mem_map_of_mem (f := fun r : Round => (r.begun, r.stop)) hr
    rw [rounds] at member
    simp only [List.mem_cons, Prod.mk.injEq, List.not_mem_nil, or_false] at member
    rcases member with ⟨begun, stop⟩ | ⟨begun, stop⟩ <;> rw [begun, stop]
  have keeps_up : KeepUp everySecond.interval.milliseconds x.rounds := by
    intro r hr stop stopped
    rw [each r hr] at stopped
    cases stopped
    exact Nat.le_add_right _ _
  have to_end : x.stage.InRange := by
    rw [Stage.InRange, Stage.clock, base, time]
    rfl
  obtain ⟨-, -, -, -, -, reminded⟩ :=
    windows_tile rfl (by decide : 1 ≤ 1) diary keeps_up rfl to_end
  have length : x.rounds.length = 2 := by
    rw [← List.length_map (f := fun r : Round => (r.begun, r.stop)), rounds]
    rfl
  obtain ⟨k, -, turn, once⟩ := (reminded second fun _ quiet => stored_of_calm quiet rfl).2
    (fun _ quiet => clear_of_calm quiet _ _) (fun r hr => each r hr ▸ Option.some_ne_none _)
    (by decide) (by rw [length]; decide)
  have its_turn : (second.remindIn.seconds - brisk.clock.seconds) / ((1 : Nat) : Int) = 2 := by
    decide
  obtain rfl : k = 1 := by omega
  exact ⟨rfl, Nat.le_refl 1, x, published, diary, keeps_up, rfl, to_end, once⟩

end TwoCycles
end Agenda.Rehearsal
