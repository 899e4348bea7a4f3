import Mathlib
import Agenda.Proofs.Scheduler.Overrun

/-! Which reminders a run attempts. A dispatch cycle tries to publish every event of its window that
it finds, so an event that stays stored is missed only by what the windows leave out. -/
namespace Agenda.Rehearsal

def publication (e : Event) : Call := .produce (.publish (Notification.ofEvent e).toBytes)

/-- The event is stored, and the faults that are planned leave the query for reminders and the
opening of the channel alone. -/
structure Undisturbed (limit : Duration) (e : Event) (s : Stage) : Prop where
  keyed : s.service.events.Keyed Event.id
  stored : s.service.events.find? e.id = some e
  query : ∀ window, Performer.Passes limit s.faults (.findByRemindIn window)
  channel : Performer.Passes limit s.faults (.produce .openChannel)

/-- A publication of the event was tried, if it is in the window. -/
def Attempted (e : Event) (r : Round) : Prop :=
  r.window.contains e.remindIn = true → publication e ∈ r.calls

/-- How far a cycle has got with an event. -/
def Progress (e : Event) (r : Round) (p : Performer Dispatch) : Prop :=
  match p.state with
  | .query window => window = r.window ∧ p.Unhindered
  | .openChannel due => (r.window.contains e.remindIn = true → e ∈ due) ∧ p.Unhindered
  | .publish d later _ => p.Active ∧ (r.window.contains e.remindIn = true →
      publication e ∈ r.calls ∨ e ∈ later ∨ e = d ∧ p.phase = .acting)
  | .closeChannel _ => p.Active ∧ Attempted e r
  | .finished => Attempted e r

def Round.call (r : Round) (p : Performer Dispatch) : Round :=
  { r with calls := p.issued?.toList ++ r.calls }

namespace Progress

variable {e : Event} {r : Round} {p : Performer Dispatch} {limit : Duration} {s : Scene}

theorem attempted_call (h : Attempted e r) (p : Performer Dispatch) : Attempted e (r.call p) := by
  intro inside
  exact List.mem_append_right _ (h inside)

/-- The cycle goes on with the events that are left. -/
theorem proceed {count : Nat} {later : List Event} {q : Round}
    (h : q.window.contains e.remindIn = true → publication e ∈ q.calls ∨ e ∈ later) :
    Progress e q (.start (Dispatch.proceed count later)) := by
  cases later with
  | nil =>
    constructor
    · exact .inl rfl
    · intro inside
      rcases h inside with tried | left
      · exact tried
      · cases left
  | cons d rest =>
    constructor
    · exact .inl rfl
    · intro inside
      rcases h inside with tried | left
      · exact .inl tried
      · rcases List.mem_cons.mp left with rfl | left
        · exact .inr (.inr ⟨rfl, rfl⟩)
        · exact .inr (.inl left)

/-- A publication that is tried now or was tried before. -/
theorem tried {d : Event} {later : List Event} {count : Nat} {phase : Phase}
    (h : publication e ∈ r.calls ∨ e ∈ later ∨ e = d ∧ phase = .acting) :
    publication e ∈ (r.call ⟨.publish d later count, phase⟩).calls ∨ e ∈ later := by
  rcases h with before | left | ⟨rfl, rfl⟩
  · exact .inl (List.mem_append_right _ before)
  · exact .inr left
  · exact .inl (.head _)

/-- One step of the cycle. -/
theorem step (h : Progress e r p) (undisturbed : Undisturbed limit e s.stage) :
    (p.step (some limit) s).1.phase = .crashed ∨
      ((p.step (some limit) s).1.phase = .halted ∧ Attempted e r) ∨
      ((p.step (some limit) s).1.Active ∧ Progress e (r.call p) (p.step (some limit) s).1) := by
  obtain ⟨state, phase⟩ := p
  cases state with
  | query window =>
    obtain ⟨rfl, unhindered⟩ := h
    right; right
    rcases Performer.step_passes unhindered rfl (undisturbed.query r.window) with ⟨due, eq⟩ | eq
    · rw [eq]
      exact ⟨.inr ⟨due, false, rfl⟩, rfl, .inr ⟨due, rfl⟩⟩
    · rw [eq]
      refine ⟨.inl rfl, ?_⟩
      have selected (inside : r.window.contains e.remindIn = true) :
          e ∈ Query.select (·.remindsWithin r.window) (·.remindIn) s.stage.service.events.items := by
        have member := (Collection.mem_items_iff undisturbed.keyed).mpr undisturbed.stored
        exact Query.mem_select.mpr ⟨member, inside⟩
      simp only [LocalService.answer, EventStore.findByRemindIn]
      generalize Query.select (·.remindsWithin r.window) (·.remindIn) s.stage.service.events.items =
        events at *
      cases found : Query.answer events with
      | ok due =>
        obtain ⟨rfl, -⟩ := Query.answer_eq_ok.mp found
        exact ⟨selected, .inl rfl⟩
      | error error =>
        obtain ⟨rfl, nothing⟩ := Query.answer_eq_error.mp found
        intro inside
        have none_selected := selected inside
        rw [nothing] at none_selected
        cases none_selected
  | openChannel due =>
    obtain ⟨found, unhindered⟩ := h
    right; right
    rcases Performer.step_passes unhindered rfl undisturbed.channel with ⟨at_, eq⟩ | eq
    · rw [eq]
      exact ⟨.inr ⟨at_, false, rfl⟩, found, .inr ⟨at_, rfl⟩⟩
    · rw [eq]
      exact ⟨.inl rfl, proceed fun inside => .inr (found inside)⟩
  | publish d later count =>
    obtain ⟨active, left⟩ := h
    rcases Performer.step_asks active rfl s with crashed | ⟨due, cut, eq⟩ | ⟨a, eq⟩
    · exact .inl crashed
    · right; right
      rw [eq]
      refine ⟨.inr ⟨due, cut, rfl⟩, .inr ⟨due, cut, rfl⟩, fun inside => ?_⟩
      exact (tried (left inside)).imp_right .inl
    · right; right
      rw [eq]
      refine ⟨.inl rfl, ?_⟩
      cases a <;> exact proceed fun inside => tried (left inside)
  | closeChannel count =>
    obtain ⟨active, attempted⟩ := h
    rcases Performer.step_asks active rfl s with crashed | ⟨due, cut, eq⟩ | ⟨a, eq⟩
    · exact .inl crashed
    · right; right
      rw [eq]
      exact ⟨.inr ⟨due, cut, rfl⟩, .inr ⟨due, cut, rfl⟩, attempted_call attempted _⟩
    · right; right
      rw [eq]
      refine ⟨.inl rfl, ?_⟩
      cases a <;> exact attempted_call attempted _
  | finished => exact .inr (.inl ⟨rfl, h⟩)

end Progress

/-! ## Whole runs -/

/-- The cycles that have ended have attempted the event, and the one that goes on will. -/
structure Reminded (e : Event) (x : Course) : Prop where
  ended : ∀ r ∈ x.rounds, r.stop ≠ none → Attempted e r
  going : ∀ t p, x.scheduler.dispatcher = .cycling t p →
    ∀ r ∈ x.rounds.head?, Progress e r p

namespace Reminded

variable {pace : Pace} {e : Event} {x : Course}

theorem start (e : Event) (seat : Seat) (stage : Stage) : Reminded e (.start seat stage) where
  ended := by intro r hr; cases hr
  going := by intro t p cycling; cases cycling

theorem frame (h : Reminded e x) {y : Course}
    (dispatcher : y.scheduler.dispatcher = x.scheduler.dispatcher) (rounds : y.rounds = x.rounds) :
    Reminded e y where
  ended := rounds ▸ h.ended
  going := by rw [dispatcher, rounds]; exact h.going

theorem dispatch (h : Reminded e x) (undisturbed : Undisturbed pace.operationTimeout e x.stage) :
    Reminded e (x.dispatch pace) := by
  obtain ⟨⟨supervision, worker, cleaner, seat⟩, stage, rounds⟩ := x
  obtain ⟨ended, going⟩ := h
  simp only [Course.dispatch, Scheduler.stepDispatcher, Scheduler.scene]
  cases worker with
  | fresh =>
    simp only [Worker.step]
    split <;> exact ⟨ended, by intro t p cycling; cases cycling⟩
  | waiting t =>
    rcases Worker.step_waiting (σ := Dispatch) pace t ⟨seat, stage⟩ with
      ends | fails | ⟨-, -, begins⟩
    · rw [ends]
      exact ⟨ended, by intro t p cycling; cases cycling⟩
    · rw [fails]
      exact ⟨ended, by intro t p cycling; cases cycling⟩
    · rw [begins]
      constructor
      · intro r hr stopped
        rcases List.mem_cons.mp hr with rfl | hr
        · exact absurd rfl stopped
        · exact ended r hr stopped
      · intro t' p cycling r hr
        cases cycling
        cases hr
        exact ⟨rfl, .inl rfl⟩
  | cycling t p =>
    cases rounds with
    | nil =>
      have none_yet (w : Worker Dispatch) : chronicle stage.time (.cycling t p) w [] = [] := by
        cases w <;> rfl
      simp only [none_yet]
      exact ⟨ended, by intro t p _ r hr; cases hr⟩
    | cons r earlier =>
      have progress := (going t p rfl r rfl).step undisturbed (s := ⟨seat, stage⟩)
      have others (q : Round) (known : q.stop ≠ none → Attempted e q) :
          ∀ q' ∈ q :: earlier, q'.stop ≠ none → Attempted e q' := by
        intro q' hq' stopped
        rcases List.mem_cons.mp hq' with rfl | hq'
        · exact known stopped
        · exact ended q' (.tail _ hq') stopped
      have called (stopped : r.stop ≠ none) : Attempted e (r.call p) :=
        Progress.attempted_call (ended r (.head _) stopped) p
      rcases progress with crashed | ⟨halted, attempted⟩ | ⟨active, progress⟩
      · simp only [Worker.step, crashed]
        exact ⟨others _ called, by intro t p cycling; cases cycling⟩
      · simp only [Worker.step, halted]
        exact ⟨others _ fun _ => attempted, by intro t p cycling; cases cycling⟩
      · rw [Worker.step_active active]
        constructor
        · exact others _ called
        · intro t' p' cycling q hq
          cases cycling
          cases hq
          exact progress
  | ended => exact ⟨ended, going⟩
  | failed => exact ⟨ended, going⟩

theorem step {y : Course} (h : Reminded e x)
    (undisturbed : Undisturbed pace.operationTimeout e x.stage) (hs : Course.Step pace x y) :
    Reminded e y := by
  cases hs with
  | dispatcher => exact h.dispatch undisturbed
  | cleaner => exact h.frame rfl rfl
  | supervisor => exact h.frame (Timed.dispatcher_step _ _) rfl
  | others => exact h.frame rfl rfl

theorem run (h : Course.Run pace (Undisturbed pace.operationTimeout e) x) : Reminded e x := by
  induction h with
  | start seat _ => exact start e seat _
  | step run hs _ ih => exact ih.step run.now hs

end Reminded

/-- **What overrunning cycles leave out.** The window of a cycle begins in the one before or right
after it if and only if that cycle has ended by then. Otherwise it begins when that cycle ends, and
of all instants between the first window and the last, exactly those from the end of such a window
to the end of its cycle are in none. An event that stays in the storage is attempted if its reminder
is at none of them. -/
theorem windows_adjoin_iff_in_time {pace : Pace} {interval : Nat} {x : Course}
    (seconds : pace.interval = .ofSeconds interval) (positive : 1 ≤ interval)
    (run : Course.Run pace (fun _ => True) x) :
    (∀ earlier later, Successive x.rounds earlier later → ∃ stop, earlier.stop = some stop ∧
      (later.window.start.seconds ≤ earlier.window.start.seconds + interval ↔
        (clockAt x.stage.base stop).seconds ≤ earlier.window.start.seconds + interval) ∧
      (earlier.window.start.seconds + interval < (clockAt x.stage.base stop).seconds →
        later.window.start = clockAt x.stage.base stop)) ∧
    (∀ first last s, x.rounds.getLast? = some first → x.rounds.head? = some last →
      first.window.start ≤ s → s ≤ last.window.stop →
      ((∃ r ∈ x.rounds, r.window.contains s = true) ↔ ¬ ∃ earlier later,
        Successive x.rounds earlier later ∧ LeftOut x.stage.base interval earlier s)) ∧
    ∀ e first last, Course.Run pace (Undisturbed pace.operationTimeout e) x →
      x.rounds.getLast? = some first → x.rounds.head? = some last → last.stop ≠ none →
      first.window.start ≤ e.remindIn → e.remindIn ≤ last.window.stop →
      (¬ ∃ earlier later, Successive x.rounds earlier later ∧
        LeftOut x.stage.base interval earlier e.remindIn) →
      ∃ r ∈ x.rounds, publication e ∈ r.calls := by
  have spaced := (Timed.run run).spaced seconds positive
  refine ⟨?_, ?_, ?_⟩
  · intro earlier later next
    obtain ⟨stop, stopped, in_time, waits⟩ :=
      (spaced.paced_of_successive next).start_le_iff x.stage.base
    rw [spaced.start (next.subset (.head _)), spaced.start (next.subset (.tail _ (.head _)))]
    refine ⟨stop, stopped, in_time, ?_⟩
    intro late
    rw [waits late]
  · intro first last s hf hl lo hi
    exact spaced.covered_iff hf hl lo hi
  · intro e first last undisturbed hf hl ended lo hi never
    obtain ⟨r, hr, inside⟩ := (spaced.covered_iff hf hl lo hi).mpr never
    have last_ended : ∀ q, x.rounds.head? = some q → q.stop ≠ none := by
      intro q hq
      obtain rfl : last = q := Option.some.inj (hl.symm.trans hq)
      exact ended
    have all_ended := spaced.ended last_ended
    exact ⟨r, hr, (Reminded.run undisturbed).ended r hr (all_ended r hr) inside⟩

namespace TwoCycles

/-- An event with a reminder at a second of the clock. -/
def reminder (id : String) (second : Timestamp) : Event :=
  ⟨id, "", .zero, .zero, "", "", second⟩

def first : Event := reminder "a" ⟨1, by decide, by decide⟩

def second : Event := reminder "b" ⟨2, by decide, by decide⟩

def pair : EventStore := ⟨[("a", first), ("b", second)], by decide⟩

/-- The clock reads 0, and queries for reminders take two seconds. -/
def sluggish : Stage where
  time := 0
  base := 0
  service := { LocalService.new 5 with events := pair }
  faults := [("find_by_remind_in", .slow 2000)]
  token := 0
  cancelled := []
  chance := { tick := false, delivery := true }
  entries := []

def everySecond : Pace := ⟨.ofSeconds 1, ⟨3000⟩, 0⟩

def unchanged (s : Stage) : Bool :=
  decide (s.faults = sluggish.faults) && decide (s.service.events.entries = pair.entries)

/-- Two dispatch cycles, and a cleanup cycle every second. -/
def twoCycles : List Course.Cue :=
  [.supervisor, .dispatcher, .cleaner, .wait 1000, .dispatcher, .cleaner, .cleaner, .cleaner,
    .dispatcher, .wait 2000, .cleaner, .cleaner, .cleaner, .wait 3000, .dispatcher, .dispatcher,
    .dispatcher, .dispatcher, .dispatcher, .dispatcher, .cleaner, .cleaner, .cleaner, .dispatcher,
    .wait 4000, .cleaner, .cleaner, .cleaner, .wait 5000, .dispatcher, .dispatcher]

def window (now : Timestamp) : TimeSpan := Dispatch.window now everySecond.interval

def firstRound : Round where
  begun := 1000
  window := window ⟨1, by decide, by decide⟩
  calls := [.produce .closeChannel, publication first, .produce .openChannel,
    .findByRemindIn (window ⟨1, by decide, by decide⟩)]
  stop := some 3000

def secondRound : Round where
  begun := 3000
  window := window ⟨3, by decide, by decide⟩
  calls := [.findByRemindIn (window ⟨3, by decide, by decide⟩)]
  stop := some 5000

theorem twoCycles_followed : ∃ x,
    (Course.start (sluggish.seat none) sluggish).follow? everySecond unchanged twoCycles = some x ∧
      x.stage.base = 0 ∧ x.rounds = [secondRound, firstRound] := by
  have outcome : ((Course.start (sluggish.seat none) sluggish).follow? everySecond unchanged
      twoCycles).map (fun x => (x.stage.base, x.rounds)) = some (0, [secondRound, firstRound]) := by
    cbv
  obtain ⟨x, followed, same⟩ := Option.map_eq_some_iff.mp outcome
  exact ⟨x, followed, congrArg Prod.fst same, congrArg Prod.snd same⟩

theorem undisturbed_of_unchanged {s : Stage} (h : unchanged s = true) {e : Event}
    (stored : pair.find? e.id = some e) : Undisturbed everySecond.operationTimeout e s := by
  obtain ⟨faults, events⟩ :
      s.faults = sluggish.faults ∧ s.service.events.entries = pair.entries := by
    simpa [unchanged] using h
  have same : s.service.events = pair := Collection.ext events
  refine ⟨?_, same ▸ stored, ?_, ?_⟩
  · rw [same]
    apply Collection.keyed_iff_own.mpr
    simp [pair, first, second, reminder]
  · intro window
    rw [faults]
    exact (by decide : 2000 ≤ 3000)
  · rw [faults]
    trivial

theorem twoCycles_run {x : Course} {holds : Stage → Prop}
    (followed : (Course.start (sluggish.seat none) sluggish).follow? everySecond unchanged
      twoCycles = some x) (sound : ∀ s, unchanged s = true → holds s) :
    Course.Run everySecond holds x :=
  (Course.Run.start _ (sound _ (by decide))).follow sound followed

/-- The second window begins two seconds after the first, and the event in between is passed
over. -/
theorem second_passed_over : ∃ x,
    Course.Run everySecond (Undisturbed everySecond.operationTimeout second) x ∧
      Successive x.rounds firstRound secondRound ∧
      firstRound.window.start.seconds + 1 < secondRound.window.start.seconds ∧
      firstRound.window.start ≤ second.remindIn ∧ second.remindIn ≤ secondRound.window.stop ∧
      ∀ r ∈ x.rounds, publication second ∉ r.calls := by
  obtain ⟨x, followed, -, rounds⟩ := twoCycles_followed
  refine ⟨x, twoCycles_run followed fun s h => undisturbed_of_unchanged h rfl, ?_, by decide,
    by decide, by decide, ?_⟩
  · rw [rounds]
    exact ⟨[], [], rfl⟩
  · have other : publication second ≠ publication first := of_decide_eq_false (by cbv)
    intro r hr
    rw [rounds] at hr
    rcases List.mem_pair.mp hr with rfl | rfl
    · simp [secondRound, publication]
    · simp [firstRound, other]
      simp [publication]

/-- The event of the first window is attempted. -/
theorem first_attempted :
    everySecond.interval = .ofSeconds 1 ∧ 1 ≤ 1 ∧ ∃ x, Course.Run everySecond (fun _ => True) x ∧
      ∃ r ∈ x.rounds, publication first ∈ r.calls := by
  obtain ⟨x, followed, base, rounds⟩ := twoCycles_followed
  have undisturbed : Course.Run everySecond (Undisturbed everySecond.operationTimeout first) x :=
    twoCycles_run followed fun s h => undisturbed_of_unchanged h rfl
  have run : Course.Run everySecond (fun _ => True) x := undisturbed.weaken fun _ _ => trivial
  obtain ⟨-, -, attempted⟩ := windows_adjoin_iff_in_time rfl (by decide : 1 ≤ 1) run
  refine ⟨rfl, Nat.le_refl 1, x, run, attempted first firstRound secondRound undisturbed ?_ ?_ ?_
    (by decide) (by decide) ?_⟩
  · rw [rounds]
    rfl
  · rw [rounds]
    rfl
  · exact Option.some_ne_none _
  · rintro ⟨earlier, later, next, -, -, lo, -⟩
    have member := next.subset (.tail _ (.head _))
    rw [rounds] at member
    rcases List.mem_pair.mp member with rfl | rfl <;> revert lo <;> decide

end TwoCycles
end Agenda.Rehearsal
