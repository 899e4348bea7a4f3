import Agenda.Proofs.Scheduler.Discipline

/-! How a scheduler comes to its end. The batch that is in progress when it is cancelled is
completed in time, and when both workers have ended it closes the connection, which is its last
call. -/
namespace Agenda.Rehearsal

/-! ## The batch in progress -/

/-- What became of calls that were promised: they are answered, or those that are left of them will
be by `bound`. -/
inductive Settling (pace : Pace) (bound : Nat) (promised answered : List ProducerCall)
    (y : Course) : Prop
  | settled : promised <+: answered → Settling pace bound promised answered y
  | going : promised = answered ++ y.scheduler.dispatcher.owed →
      y.scheduler.dispatcher.owed ≠ [] →
      y.scheduler.dispatcher.latest pace y.stage.time +
          y.scheduler.dispatcher.owed.length * pace.operationTimeout.milliseconds ≤
        bound + pace.operationTimeout.milliseconds →
      Settling pace bound promised answered y

namespace Settling

variable {pace : Pace} {candid : Prop} {bound : Nat} {promised answered : List ProducerCall}
  {x y z : Course} {transcript shown later : List Moment}

theorem start (disciplined : Disciplined pace candid x transcript) :
    Settling pace (x.stage.time +
        x.scheduler.dispatcher.owed.length * pace.operationTimeout.milliseconds)
      x.scheduler.dispatcher.owed [] x := by
  by_cases nothing : x.scheduler.dispatcher.owed = []
  · exact .settled (nothing ▸ List.nil_prefix)
  · have soon := (disciplined.dispatcher.le_latest nothing).2
    refine .going rfl nothing ?_
    omega

theorem dispatch (disciplined : Disciplined pace candid y transcript)
    (tolerable : Tolerable y.stage) {t : Nat} (due : y.scheduler.dispatcherDue y.stage = some t)
    (split : promised = answered ++ y.scheduler.dispatcher.owed)
    (some : y.scheduler.dispatcher.owed ≠ [])
    (soon : y.scheduler.dispatcher.latest pace y.stage.time +
        y.scheduler.dispatcher.owed.length * pace.operationTimeout.milliseconds ≤
      bound + pace.operationTimeout.milliseconds) :
    Settling pace bound promised (answered ++ (replies (y.scheduler.dispatcher.moments pace
      (y.scheduler.scene y.stage))).map Prod.fst) (y.dispatch pace) := by
  have running := (Scheduler.running_of_due due).2
  have turn := Worker.step_turn running disciplined.dispatcher
    (s := y.scheduler.scene y.stage) dispatch_deaf tolerable.unbroken
  have timely := (disciplined.dispatcher.le_latest some).1
  have time : (y.dispatch pace).stage.time = y.stage.time := (SameTime.worker _ _ _).1
  rcases turn.dispatch with ⟨quiet, owed, -, latest⟩ | ⟨t, p, p', cycling, moved, acting, moves⟩
  · rw [quiet, List.map_nil, List.append_nil]
    refine .going (split.trans (congrArg _ owed.symm)) (owed.trans_ne some) ?_
    rw [time]
    refine Nat.le_trans (Nat.add_le_add (latest some) (Nat.le_of_eq ?_)) soon
    exact congrArg (·.length * _) owed
  · rw [cycling] at split some soon timely
    have now : (y.dispatch pace).scheduler.dispatcher = .cycling t p' := moved
    rcases moves.pays with nothing | ⟨call, told, paid⟩
    · exact absurd nothing some
    · have rest : promised = answered ++ [call] ++ owed p'.state := by
        rw [split, Worker.owed, paid, List.append_assoc]
        rfl
      rw [told]
      by_cases complete : owed p'.state = []
      · rw [complete, List.append_nil] at rest
        exact .settled (rest ▸ List.prefix_rfl)
      · have length : (owed p.state).length = (owed p'.state).length + 1 := congrArg _ paid
        have latest : Worker.latest pace (.cycling t p') y.stage.time =
            y.stage.time + pace.operationTimeout.milliseconds := by
          simp only [Worker.latest, Performer.latest, acting]
        refine .going (now ▸ rest) (now ▸ complete) ?_
        rw [now, time, latest]
        rw [Worker.owed, length, Nat.add_mul, Nat.one_mul] at soon
        dsimp only [Worker.owed]
        omega

theorem turn (h : Settling pace bound promised answered y)
    (disciplined : Disciplined pace candid y transcript) (tolerable : Tolerable y.stage)
    (turn : Course.Turn pace y shown z) :
    Settling pace bound promised (answered ++ (replies shown).map Prod.fst) z := by
  cases h with
  | settled before => exact .settled (before.trans (List.prefix_append _ _))
  | going split some soon =>
    cases turn with
    | dispatcher due => exact dispatch disciplined tolerable due split some soon
    | cleaner due =>
      have running := (Scheduler.running_of_due due).2
      have turn := Worker.step_turn running disciplined.cleaner
        (s := y.scheduler.scene y.stage) cleanup_deaf tolerable.unbroken
      have time : (y.cleanup pace).stage.time = y.stage.time := (SameTime.worker _ _ _).1
      rw [turn.cleanup.1, List.map_nil, List.append_nil]
      refine .going split some ?_
      rw [time]
      exact soon
    | supervisor due =>
      have dispatcher : (y.supervise pace).scheduler.dispatcher = y.scheduler.dispatcher :=
        Timed.dispatcher_step _ _
      have time : (y.supervise pace).stage.time = y.stage.time := (SameTime.scheduler _ _ _).1
      rw [disciplined.quiet_of_owed some, replies_nil, List.map_nil, List.append_nil]
      rw [← dispatcher] at split some soon
      refine .going split some ?_
      rw [time]
      exact soon
    | others stage clock later punctual =>
      rw [replies_nil, List.map_nil, List.append_nil]
      obtain ⟨t, p, cycling⟩ := Worker.cycling_of_owed some
      have sooner := disciplined.dispatcher.latest_pass (s := y.scheduler.scene y.stage) some
        fun t due => punctual t (.inl ((disciplined.dispatcherDue cycling).trans due))
      exact .going split some (Nat.le_trans (Nat.add_le_add_right sooner _) soon)

theorem stretch {holds : Stage → Prop} (disciplined : Disciplined pace candid x transcript)
    (tolerable : ∀ s, holds s → Tolerable s) (honest : candid → ∀ s, holds s → Candid s)
    (run : Course.Stretch pace holds x later y) :
    Settling pace (x.stage.time +
        x.scheduler.dispatcher.owed.length * pace.operationTimeout.milliseconds)
      x.scheduler.dispatcher.owed ((replies later).map Prod.fst) y := by
  induction run with
  | start => exact start disciplined
  | turn before next _ ih =>
    rw [replies_append, List.map_append]
    exact ih.turn (disciplined.stretch before tolerable honest) (tolerable _ before.now) next

end Settling

/-- **The batches of a scheduler are complete, and closing the connection is its last call.** The
storage and the broker may fail or keep the scheduler waiting at any call, and it may be cancelled
at any moment. When it has stopped, the calls of its producer were batches and one call that closes
the connection. Before, they are batches of which the last may be in progress. What is left of that
one is asked before anything else of the producer, at the latest within one time limit for each call
and before the scheduler stops, whatever happens in the meantime. The connection is closed when both
workers have ended, once, and no other call follows. The scheduler never gets stuck on the way. If
only a closed channel is said to be closed, no publication is ever refused for that. -/
theorem batches_complete_before_closing {pace : Pace} {holds : Stage → Prop} {seat : Seat}
    {origin : Stage} {x : Course} {transcript : List Moment}
    (tolerable : ∀ s, holds s → Tolerable s)
    (run : Course.Stretch pace holds (.start seat origin) transcript x) :
    (x.scheduler.isOver = true →
      Word (replies transcript) ∧ produced transcript = (replies transcript).map Prod.fst) ∧
    (∃ begun, Batched begun (replies transcript) ∧ (Underway begun x.scheduler.dispatcher.owed ∨
      ∃ answer, begun = [(.closeConnection, answer)])) ∧
    (∀ later y, Course.Stretch pace holds x later y →
      x.scheduler.dispatcher.owed <+: (replies later).map Prod.fst ∨
      x.scheduler.dispatcher.owed = (replies later).map Prod.fst ++ y.scheduler.dispatcher.owed ∧
        y.scheduler.isOver = false ∧ y.stage.time ≤ x.stage.time +
          x.scheduler.dispatcher.owed.length * pace.operationTimeout.milliseconds) ∧
    (.produce .closeConnection ∈ requests transcript →
      x.scheduler.dispatcher.isOver = true ∧ x.scheduler.cleaner.isOver = true ∧
        Last (.produce .closeConnection) (requests transcript)) ∧
    (x.scheduler.isOver = true → .produce .closeConnection ∈ requests transcript) ∧
    (x.scheduler.isOver = false → ∃ t, x.Due t ∧
      ((x.scheduler.dispatcher.isOver && x.scheduler.cleaner.isOver) = false →
        (x.scheduler.scene x.stage).isCancelled = true →
        t ≤ x.stage.time + pace.operationTimeout.milliseconds)) ∧
    ((∀ s, holds s → Candid s) →
      ∀ b, (.publish b, .error .channelNotOpen) ∉ replies transcript) := by
  have disciplined : Disciplined pace (∀ s, holds s → Candid s) x transcript :=
    Disciplined.stretch (.start seat origin) run tolerable fun honest => honest
  refine ⟨fun ended => (disciplined.stopped ended).2, disciplined.batches, ?_, ?_, ?_,
    disciplined.due, disciplined.accepted⟩
  · intro later y onward
    have present := disciplined.stretch onward tolerable fun honest => honest
    cases Settling.stretch disciplined tolerable (fun honest => honest) onward with
    | settled answered => exact .inl answered
    | going split some soon =>
      refine .inr ⟨split, ?_, ?_⟩
      · by_contra ended
        obtain ⟨closed, -⟩ := present.stopped (Bool.eq_true_of_not_eq_false ended)
        exact some (Worker.owed_over closed.ended.1)
      · have timely := (present.dispatcher.le_latest some).1
        have := Nat.le_mul_of_pos_left pace.operationTimeout.milliseconds
          (List.length_pos_of_ne_nil some)
        omega
  · intro made
    rcases disciplined.standing with opened | closed
    · exact absurd made opened.unclosed
    · exact ⟨closed.ended.1, closed.ended.2, closed.last⟩
  · intro ended
    obtain ⟨⟨-, ⟨before, last, -⟩, -⟩, -⟩ := disciplined.stopped ended
    rw [last]
    exact List.mem_append_right _ (.head _)

namespace CutShort

open TwoCycles (everySecond first)

def early : Event := first

def late : Event := { first with id := "b" }

/-- The clock reads 0, and two reminders are due one second later. -/
def twins : Stage where
  time := 0
  base := 0
  service := { LocalService.new 5 with events := ⟨[("a", early), ("b", late)], by decide⟩ }
  faults := []
  token := 0
  cancelled := []
  chance := { tick := false, delivery := true }
  entries := []

def unplanned (s : Stage) : Bool := decide (s.faults = [])

/-- The first publication is answered, and a cleanup cycle has begun. -/
def intoBatch : List Course.Cue :=
  [.supervisor, .dispatcher, .cleaner, .wait 1000, .dispatcher, .cleaner, .dispatcher, .dispatcher,
    .dispatcher]

def toTheEnd : List Course.Cue :=
  [.dispatcher, .dispatcher, .cleaner, .dispatcher, .dispatcher, .cleaner, .cleaner, .supervisor,
    .supervisor, .supervisor]

def cancel (x : Course) : Course := { x with stage := x.stage.cancel }

def cycle? : Worker Dispatch → Option Dispatch
  | .cycling _ p => some p.state
  | .fresh | .waiting _ | .ended | .failed => none

theorem owed_of_cycle {w : Worker Dispatch} {d : Dispatch} (h : cycle? w = some d) :
    w.owed = owed d := by
  cases w with
  | cycling t p => exact congrArg owed (Option.some.inj h)
  | fresh | waiting | ended | failed => cases h

theorem tolerable_of_unplanned {s : Stage} (h : unplanned s = true) : Tolerable s := by
  have none_planned : s.faults = [] := of_decide_eq_true h
  have nothing (c : Call) : s.faults.find? c = none := by
    cases found : subject? c <;> simp [none_planned, FaultPlan.find?, found]
  exact ⟨fun c => by simp [nothing], by simp [nothing]⟩

theorem followed : ∃ x y,
    (Course.start (twins.seat none) twins).follow? everySecond unplanned intoBatch = some x ∧
      cycle? x.scheduler.dispatcher = some (.publish late [] 2) ∧
      ((cancel x).scheduler.scene (cancel x).stage).isCancelled = true ∧
      (cancel x).follow? everySecond unplanned toTheEnd = some y ∧ y.scheduler.isOver = true := by
  have outcome : ((Course.start (twins.seat none) twins).follow? everySecond unplanned
      intoBatch).map (fun x => (cycle? x.scheduler.dispatcher,
        ((cancel x).scheduler.scene (cancel x).stage).isCancelled,
        ((cancel x).follow? everySecond unplanned toTheEnd).map (·.scheduler.isOver))) =
      some (some (.publish late [] 2), true, some true) := by
    cbv
  obtain ⟨x, followed, same⟩ := Option.map_eq_some_iff.mp outcome
  simp only [Prod.mk.injEq] at same
  obtain ⟨cycle, cancelled, ended⟩ := same
  obtain ⟨y, onward, ended⟩ := Option.map_eq_some_iff.mp ended
  exact ⟨x, y, followed, cycle, cancelled, onward, ended⟩

/-- A scheduler that is cancelled between two publications makes the second and closes the channel
before it stops. -/
theorem second_still_published : ∃ x y earlier later,
    (∀ s, unplanned s = true → Tolerable s) ∧
      Course.Stretch everySecond (unplanned · = true) (.start (twins.seat none) twins) earlier x ∧
      (x.scheduler.scene x.stage).isCancelled = true ∧
      x.scheduler.dispatcher.owed = announcements [late] ∧
      Course.Stretch everySecond (unplanned · = true) x later y ∧ y.scheduler.isOver = true ∧
      announcements [late] <+: (replies later).map Prod.fst ∧
      Word (replies (earlier ++ later)) := by
  have tolerable (s : Stage) (h : unplanned s = true) : Tolerable s := tolerable_of_unplanned h
  obtain ⟨x, y, followed, cycle, cancelled, onward, ended⟩ := followed
  obtain ⟨earlier, first⟩ : ∃ earlier, Course.Stretch everySecond (unplanned · = true)
      (.start (twins.seat none) twins) earlier x :=
    Course.Stretch.follow (fun _ h => h) (of_decide_eq_true rfl) followed
  have interrupted : Course.Stretch everySecond (unplanned · = true)
      (.start (twins.seat none) twins) (earlier ++ []) (cancel x) :=
    .turn first (.others x.stage.cancel rfl (Nat.le_refl _) fun _ _ => Nat.le_max_right _ _)
      first.now
  obtain ⟨later, second⟩ : ∃ later, Course.Stretch everySecond (unplanned · = true)
      (cancel x) later y :=
    Course.Stretch.follow (fun _ h => h) interrupted.now onward
  have owed : (cancel x).scheduler.dispatcher.owed = announcements [late] := owed_of_cycle cycle
  obtain ⟨-, -, completed, -⟩ := batches_complete_before_closing tolerable interrupted
  obtain ⟨word, -⟩ := batches_complete_before_closing tolerable (interrupted.append second)
  refine ⟨cancel x, y, _, later, tolerable, interrupted, cancelled, owed, second, ended, ?_,
    (word ended).1⟩
  rcases completed later y second with answered | ⟨-, going, -⟩
  · exact owed ▸ answered
  · rw [ended] at going
    cases going

end CutShort
end Agenda.Rehearsal
