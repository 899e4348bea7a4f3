import Agenda.Proofs.Scheduler.Batches

/-! The order that the calls of a scheduler keep in every state of a run: batches one after another,
and at the end the call that closes the connection. -/
namespace Agenda.Rehearsal

/-- Calls may fail or take too long. But none breaks off who makes it, and the connection can be
closed. -/
structure Tolerable (s : Stage) : Prop where
  unbroken : ∀ c, s.faults.find? c ≠ some .crash
  closes : s.faults.find? (.produce .closeConnection) ≠ some .hang

/-! ## Calls that wait -/

namespace Performer

variable {σ : Type} [Machine σ] {p : Performer σ} {s : Scene} {shown : List Moment}
  {q : Performer σ × Scene}

/-- The producer call that it has made and that is not answered. -/
def pending (p : Performer σ) : List ProducerCall :=
  match p.phase, Machine.move p.state with
  | .delayed _ _, .ask c _ => (producerCall? c).toList
  | _, _ => []

/-- No call is made or answered twice. -/
theorem Turn.balanced {limit : Option Duration} (h : p.Turn limit s shown q) (active : p.Active) :
    p.pending ++ produced shown = (replies shown).map Prod.fst ++ q.1.pending := by
  obtain ⟨state, phase⟩ := p
  cases h with
  | @waits c _ _ _ _ asks acting =>
    obtain rfl : phase = .acting := acting
    simp only [pending, asks]
    cases c <;> rfl
  | @answered c _ _ _ asks =>
    rcases active with rfl | ⟨due, cut, rfl⟩
    · simp only [pending, issued?, asks]
      cases c <;> rfl
    · simp only [pending, issued?, asks]
      cases c <;> rfl

/-- Until when the call that it makes or has made is answered. -/
def latest (limit : Duration) (p : Performer σ) (time : Nat) : Nat :=
  match p.phase with
  | .delayed due _ => due
  | _ => time + limit.milliseconds

omit [Machine σ] in
theorem Timely.le_latest {limit : Duration} {time : Nat} (h : p.Timely limit time) :
    time ≤ p.latest limit time ∧ p.latest limit time ≤ time + limit.milliseconds := by
  rcases h with acting | ⟨due, cut, delayed, past, soon⟩
  · simp only [latest, acting]
    omega
  · simp only [latest, delayed]
    exact ⟨past, soon⟩

end Performer

namespace Worker

section Cycles

variable {σ : Type} [Cycle σ] {pace : Pace} {w : Worker σ} {s : Scene} {shown : List Moment}
  {q : Worker σ × Scene}

def pending (w : Worker σ) : List ProducerCall :=
  match w with
  | .cycling _ p => p.pending
  | .fresh | .waiting _ | .ended | .failed => []

theorem Turn.balanced (h : Turn pace s w shown q) (timely : w.Timely pace s.time) :
    w.pending ++ produced shown = (replies shown).map Prod.fst ++ q.1.pending := by
  cases h with
  | setsUp | failsToSetUp | ends | failsToGoOn | begins => rfl
  | goesOn turn => exact turn.balanced (timely _ _ rfl).active
  | @finishes t p halts =>
    have nothing : p.pending = [] := by
      unfold Performer.pending
      split
      · rename_i asks
        rw [halts] at asks
        cases asks
      · rfl
    rw [pending, nothing]
    rfl

/-- What a turn shows is about calls of the cycles. -/
theorem Turn.asks (h : Turn pace s w shown q) {m : Moment} (member : m ∈ shown) :
    ∃ (state : σ) (next : m.call.Answer → σ × List Notice),
      Machine.move state = .ask m.call next := by
  cases h with
  | setsUp | failsToSetUp | ends | failsToGoOn | begins | finishes => cases member
  | goesOn turn => exact ⟨_, turn.asks member⟩

omit [Cycle σ] in
/-- Time does not pass beyond the end of a call. -/
theorem Timely.pass (h : w.Timely pace s.time) {time : Nat} (later : s.time ≤ time)
    (punctual : ∀ t, w.due s = some t → time ≤ max t s.time) : w.Timely pace time := by
  rintro t p rfl
  rcases h t p rfl with acting | ⟨due, cut, delayed, past, soon⟩
  · exact .inl acting
  · have waits : time ≤ max due s.time := by
      apply punctual
      simp only [Worker.due, Performer.due, delayed]
    exact .inr ⟨due, cut, delayed, by omega, by omega⟩

omit [Cycle σ] in
/-- A worker that is not over acts again, and soon if it is cancelled. -/
theorem Timely.due (h : w.Timely pace s.time) (running : w.isOver = false) :
    ∃ t, w.due s = some t ∧
      (s.isCancelled = true → t ≤ s.time + pace.operationTimeout.milliseconds) := by
  cases w with
  | fresh => exact ⟨_, rfl, fun _ => Nat.le_add_right _ _⟩
  | waiting t =>
    refine ⟨_, rfl, fun cancelled => ?_⟩
    rw [if_pos cancelled]
    exact Nat.le_add_right _ _
  | cycling t p =>
    rcases h t p rfl with acting | ⟨due, cut, delayed, -, soon⟩
    · refine ⟨s.time, ?_, fun _ => Nat.le_add_right _ _⟩
      simp only [Worker.due, Performer.due, acting]
    · refine ⟨due, ?_, fun _ => soon⟩
      simp only [Worker.due, Performer.due, delayed]
  | ended | failed => cases running

omit [Cycle σ] in
theorem isOver_of_due {t : Nat} (h : w.due s = some t) : w.isOver = false := by
  cases w with
  | fresh | waiting | cycling => rfl
  | ended | failed => cases h

end Cycles

/-! ## The dispatcher -/

section Dispatcher

variable {pace : Pace} {w : Worker Dispatch} {s : Scene} {shown : List Moment}
  {q : Worker Dispatch × Scene}

/-- The calls that are left of the batch in progress. -/
def owed : Worker Dispatch → List ProducerCall
  | .cycling _ p => Rehearsal.owed p.state
  | .fresh | .waiting _ | .ended | .failed => []

def Prepared (isOpen : Bool) (w : Worker Dispatch) : Prop :=
  ∀ t p, w = .cycling t p → Rehearsal.Prepared isOpen p.state

/-- Until when the next of the calls that are owed is answered. -/
def latest (pace : Pace) (w : Worker Dispatch) (time : Nat) : Nat :=
  match w with
  | .cycling _ p => p.latest pace.operationTimeout time
  | .fresh | .waiting _ | .ended | .failed => time

theorem cycling_of_owed (h : w.owed ≠ []) : ∃ t p, w = .cycling t p := by
  cases w with
  | cycling t p => exact ⟨t, p, rfl⟩
  | fresh | waiting | ended | failed => exact absurd rfl h

theorem Timely.le_latest {time : Nat} (h : w.Timely pace time) (some : w.owed ≠ []) :
    time ≤ w.latest pace time ∧
      w.latest pace time ≤ time + pace.operationTimeout.milliseconds := by
  obtain ⟨t, p, rfl⟩ := cycling_of_owed some
  exact (h t p rfl).le_latest

/-- Waiting does not put off an answer. -/
theorem Timely.latest_pass (h : w.Timely pace s.time) (some : w.owed ≠ []) {time : Nat}
    (punctual : ∀ t, w.due s = Option.some t → time ≤ max t s.time) :
    w.latest pace time ≤ w.latest pace s.time := by
  obtain ⟨t, p, rfl⟩ := cycling_of_owed some
  rcases h t p rfl with acting | ⟨due, cut, delayed, -⟩
  · have waits : time ≤ max s.time s.time := by
      apply punctual
      simp only [Worker.due, Performer.due, acting]
    simp only [latest, Performer.latest, acting]
    omega
  · simp only [latest, Performer.latest, delayed]
    exact Nat.le_refl _

theorem owed_over (h : w.isOver = true) : w.owed = [] := by
  cases w with
  | ended | failed => rfl
  | fresh | waiting | cycling => cases h

theorem pending_over (h : w.isOver = true) : w.pending = [] := by
  cases w with
  | ended | failed => rfl
  | fresh | waiting | cycling => cases h

theorem prepared_over (h : w.isOver = true) (isOpen : Bool) : w.Prepared isOpen := by
  rintro t p rfl
  cases h

/-- A turn of the dispatcher leaves the batch as it is, or it is a move of its cycle. -/
theorem Turn.dispatch (h : Turn pace s w shown q) :
    (replies shown = [] ∧ q.1.owed = w.owed ∧
        (w.Prepared s.channelIsOpen → q.1.Prepared q.2.channelIsOpen) ∧
        (w.owed ≠ [] → q.1.latest pace s.time ≤ w.latest pace s.time)) ∨
      ∃ t p p', w = .cycling t p ∧ q.1 = .cycling t p' ∧ p'.phase = .acting ∧
        Moves s p.state (replies shown) p'.state q.2.channelIsOpen := by
  cases h with
  | setsUp | failsToSetUp | ends | failsToGoOn =>
    refine .inl ⟨rfl, rfl, fun _ => ?_, fun some => (some rfl).elim⟩
    rintro t p ⟨⟩
  | begins =>
    refine .inl ⟨rfl, rfl, fun _ => ?_, fun some => (some rfl).elim⟩
    rintro t p ⟨⟩
    exact ⟨nofun, trivial⟩
  | @finishes t p halts =>
    obtain ⟨state, phase⟩ := p
    cases state with
    | finished =>
      refine .inl ⟨rfl, rfl, fun _ => ?_, fun some => (some rfl).elim⟩
      rintro t p ⟨⟩
    | query | openChannel | publish | closeChannel => cases halts
  | @goesOn t p p' _ s' turn =>
    rcases turn.dispatch with ⟨due, cut, acting, quiet, rfl, soon, channel⟩ | ⟨acting, moves⟩
    · refine .inl ⟨quiet, rfl, fun prepared => ?_, fun _ => ?_⟩
      · rintro t' p' ⟨⟩
        rw [channel]
        exact prepared t p rfl
      · simp only [latest, Performer.latest, acting]
        exact soon
    · exact .inr ⟨t, p, p', rfl, rfl, acting, moves⟩

variable (h : Turn pace s w shown q)
include h

theorem Turn.prepared (before : w.Prepared s.channelIsOpen) : q.1.Prepared q.2.channelIsOpen := by
  rcases h.dispatch with ⟨-, -, prepared, -⟩ | ⟨t, p, p', rfl, moved, -, moves⟩
  · exact prepared before
  · rw [moved]
    rintro t' p'' ⟨⟩
    exact moves.prepared (before t p rfl)

theorem Turn.batch (before : w.Prepared s.channelIsOpen) {begun : List Reply}
    (underway : Underway begun w.owed) :
    ∃ batch rest, begun ++ replies shown = batch ++ rest ∧ (batch = [] ∨ Batch batch) ∧
      Underway rest q.1.owed := by
  rcases h.dispatch with ⟨quiet, owed, -, -⟩ | ⟨t, p, p', rfl, moved, -, moves⟩
  · rw [quiet, owed, List.append_nil]
    exact ⟨[], begun, rfl, .inl rfl, underway⟩
  · rw [moved]
    exact moves.batch (before t p rfl) underway

theorem Turn.accepted (candid : Candid s.stage) (before : w.Prepared s.channelIsOpen) (b : Bytes) :
    (.publish b, .error .channelNotOpen) ∉ replies shown := by
  rcases h.dispatch with ⟨quiet, -⟩ | ⟨t, p, p', rfl, -, -, moves⟩
  · rw [quiet]
    exact List.not_mem_nil
  · exact moves.accepted candid (before t p rfl) b

end Dispatcher
end Worker

/-! ## When workers are due -/

section Due

variable {σ : Type} {x : Scheduler} {w : Worker σ} {s : Stage} {t : Nat}

/-- When one of the workers of a scheduler is due: not before it has started them. -/
def Scheduler.workerDue (x : Scheduler) (w : Worker σ) (s : Stage) : Option Nat :=
  if x.isFresh then none else w.due (x.scene s)

theorem Scheduler.running_of_due (due : x.workerDue w s = some t) :
    x.supervision ≠ .fresh ∧ w.isOver = false := by
  unfold Scheduler.workerDue at due
  split at due
  · cases due
  · rename_i running
    refine ⟨fun fresh => running ?_, Worker.isOver_of_due due⟩
    simp only [Scheduler.isFresh, fresh]

theorem Scheduler.workerDue_of_running (running : x.supervision ≠ .fresh) (w : Worker σ)
    (s : Stage) : x.workerDue w s = w.due (x.scene s) := by
  rw [Scheduler.workerDue, Scheduler.isFresh_of_running running]
  rfl

/-- A worker that has done something belongs to a scheduler that has started it. -/
theorem Scheduler.workerDue_of_started (unstarted : x.supervision = .fresh → w = .fresh)
    (started : w ≠ .fresh) : x.workerDue w s = w.due (x.scene s) :=
  workerDue_of_running (fun fresh => started (unstarted fresh)) w s

end Due

/-! ## Calls of the workers -/

@[simp] theorem replies_nil : replies [] = [] := rfl

theorem not_mem_requests {c : Call} {transcript : List Moment}
    (h : ∀ m ∈ transcript, m.call ≠ c) : c ∉ requests transcript := by
  intro member
  obtain ⟨m, shown, made⟩ := List.mem_filterMap.mp member
  cases m with
  | made c' => exact h _ shown (Option.some.inj made)
  | told => cases made

/-- The calls of cleanup cycles are no concern of the producer. -/
theorem Worker.Turn.cleanup {pace : Pace} {w : Worker Cleanup} {s : Scene} {shown : List Moment}
    {q : Worker Cleanup × Scene} (h : Worker.Turn pace s w shown q) :
    replies shown = [] ∧ produced shown = [] ∧ .produce .closeConnection ∉ requests shown := by
  have storage : ∀ m ∈ shown, ∀ call, m.call ≠ .produce call := by
    intro m member call same
    obtain ⟨state, next, asks⟩ := h.asks member
    generalize m.call = c at same next asks
    subst same
    cases state <;> cases asks
  refine ⟨?_, ?_, not_mem_requests fun m member => storage m member _⟩
  · apply List.filterMap_eq_nil_iff.mpr
    intro m member
    cases m with
    | made => rfl
    | told c answer =>
      cases c with
      | produce call => exact absurd rfl (storage _ member call)
      | _ => rfl
  · apply List.filterMap_eq_nil_iff.mpr
    intro c made
    obtain ⟨m, member, request⟩ := List.mem_filterMap.mp made
    cases m with
    | made c' =>
      cases request
      cases c with
      | produce call => exact absurd rfl (storage _ member call)
      | _ => rfl
    | told => cases request

theorem Worker.Turn.keeps_connection {pace : Pace} {w : Worker Dispatch} {s : Scene}
    {shown : List Moment} {q : Worker Dispatch × Scene} (h : Worker.Turn pace s w shown q) :
    .produce .closeConnection ∉ requests shown := by
  apply not_mem_requests
  intro m member same
  obtain ⟨state, next, asks⟩ := h.asks member
  generalize m.call = c at same next asks
  subst same
  cases state <;> cases asks

/-! ## Whole runs -/

/-- The producer calls of a run that has ended: batches, and the connection is closed. -/
def Word (whole : List Reply) : Prop := ∃ answer, Batched [(.closeConnection, answer)] whole

/-- A call is made once, and none is made after it. -/
def Last (c : Call) (calls : List Call) : Prop := ∃ before, calls = before ++ [c] ∧ c ∉ before

/-- The connection is not being closed. -/
structure Open (x : Course) (transcript : List Moment) : Prop where
  unclosed : .produce .closeConnection ∉ requests transcript
  batches : ∃ begun, Batched begun (replies transcript) ∧ Underway begun x.scheduler.dispatcher.owed
  balanced : produced transcript =
    (replies transcript).map Prod.fst ++ x.scheduler.dispatcher.pending
  standing : x.scheduler.supervision = .fresh ∨ x.scheduler.supervision = .watching ∨
    (x.scheduler.dispatcher.isOver = true ∧ x.scheduler.cleaner.isOver = true) ∧
      x.scheduler.supervision = .closing (.start .closeConnection)

theorem Open.frame {x y : Course} {transcript : List Moment} (h : Open x transcript)
    (dispatcher : y.scheduler.dispatcher = x.scheduler.dispatcher)
    (standing : y.scheduler.supervision = .fresh ∨ y.scheduler.supervision = .watching ∨
      (y.scheduler.dispatcher.isOver = true ∧ y.scheduler.cleaner.isOver = true) ∧
        y.scheduler.supervision = .closing (.start .closeConnection)) : Open y transcript where
  unclosed := h.unclosed
  batches := dispatcher ▸ h.batches
  balanced := dispatcher ▸ h.balanced
  standing := standing

/-- The connection is being closed, or it is. -/
structure Closed (x : Course) (transcript : List Moment) : Prop where
  ended : x.scheduler.dispatcher.isOver = true ∧ x.scheduler.cleaner.isOver = true
  last : Last (.produce .closeConnection) (requests transcript)
  standing : (∃ due cut, x.scheduler.supervision = .closing ⟨.closeConnection, .delayed due cut⟩) ∧
      Batched [] (replies transcript) ∧
      produced transcript = (replies transcript).map Prod.fst ++ [.closeConnection] ∨
    (x.scheduler.supervision = .closing (.start .finished) ∨ x.scheduler.supervision = .stopped) ∧
      Word (replies transcript) ∧ produced transcript = (replies transcript).map Prod.fst

/-- How a run stands to its transcript. -/
structure Disciplined (pace : Pace) (candid : Prop) (x : Course) (transcript : List Moment) :
    Prop where
  fresh : x.scheduler.supervision = .fresh →
    x.scheduler.dispatcher = .fresh ∧ x.scheduler.cleaner = .fresh
  dispatcher : x.scheduler.dispatcher.Timely pace x.stage.time
  cleaner : x.scheduler.cleaner.Timely pace x.stage.time
  prepared : x.scheduler.dispatcher.Prepared x.channelIsOpen
  accepted : candid → ∀ b, (.publish b, .error .channelNotOpen) ∉ replies transcript
  standing : Open x transcript ∨ Closed x transcript

namespace Disciplined

variable {pace : Pace} {candid : Prop} {x : Course} {transcript : List Moment}

theorem start (seat : Seat) (stage : Stage) : Disciplined pace candid (.start seat stage) [] where
  fresh := fun _ => ⟨rfl, rfl⟩
  dispatcher := by rintro t p ⟨⟩
  cleaner := by rintro t p ⟨⟩
  prepared := by rintro t p ⟨⟩
  accepted := fun _ _ => List.not_mem_nil
  standing := .inl ⟨List.not_mem_nil, ⟨[], ⟨[], nofun, rfl⟩, .inl ⟨rfl, rfl⟩⟩, rfl, .inl rfl⟩

/-- As long as one of the workers is not over, the connection is not being closed. -/
theorem isOpen (h : Disciplined pace candid x transcript)
    (running : ¬ (x.scheduler.dispatcher.isOver = true ∧ x.scheduler.cleaner.isOver = true)) :
    Open x transcript :=
  h.standing.resolve_right fun closed => running closed.ended

theorem dispatch (h : Disciplined pace candid x transcript) {t : Nat}
    (due : x.scheduler.dispatcherDue x.stage = some t) (tolerable : Tolerable x.stage)
    (honest : candid → Candid x.stage) :
    Disciplined pace candid (x.dispatch pace)
      (transcript ++ x.scheduler.dispatcher.moments pace (x.scheduler.scene x.stage)) := by
  obtain ⟨started, running⟩ := Scheduler.running_of_due due
  have turn := Worker.step_turn running h.dispatcher (s := x.scheduler.scene x.stage)
    dispatch_deaf tolerable.unbroken
  have time : (x.dispatch pace).stage.time = x.stage.time := (SameTime.worker _ _ _).1
  have before : Open x transcript := h.isOpen fun ended => by simp [running] at ended
  obtain ⟨begun, batches, underway⟩ := before.batches
  obtain ⟨batch, rest, split, complete, underway⟩ := turn.batch h.prepared underway
  constructor
  · exact fun fresh => absurd fresh started
  · rw [time]
    exact turn.timely
  · rw [time]
    exact h.cleaner
  · exact turn.prepared h.prepared
  · intro sure b member
    rcases List.mem_append.mp (replies_append _ _ ▸ member) with earlier | now
    · exact h.accepted sure b earlier
    · exact turn.accepted (honest sure) h.prepared b now
  · refine .inl ⟨?_, ⟨rest, ?_, underway⟩, ?_, ?_⟩
    · rw [requests_append]
      exact List.not_mem_append before.unclosed turn.keeps_connection
    · rw [replies_append]
      exact batches.append split complete
    · rw [produced_append, replies_append, before.balanced, List.map_append, List.append_assoc,
        turn.balanced h.dispatcher, List.append_assoc]
      rfl
    · rcases before.standing with fresh | watching | ⟨⟨ended, -⟩, -⟩
      · exact .inl fresh
      · exact .inr (.inl watching)
      · rw [running] at ended
        cases ended

theorem cleanup (h : Disciplined pace candid x transcript) {t : Nat}
    (due : x.scheduler.cleanerDue x.stage = some t) (tolerable : Tolerable x.stage) :
    Disciplined pace candid (x.cleanup pace)
      (transcript ++ x.scheduler.cleaner.moments pace (x.scheduler.scene x.stage)) := by
  obtain ⟨started, running⟩ := Scheduler.running_of_due due
  have turn := Worker.step_turn running h.cleaner (s := x.scheduler.scene x.stage)
    cleanup_deaf tolerable.unbroken
  have time : (x.cleanup pace).stage.time = x.stage.time := (SameTime.worker _ _ _).1
  have channel : (x.cleanup pace).channelIsOpen = x.channelIsOpen :=
    congrArg (·.producer.isOpen) (Worker.cleaner_endpoint _ _ _)
  have before : Open x transcript := h.isOpen fun ended => by simp [running] at ended
  obtain ⟨quiet, idle, unclosed⟩ := turn.cleanup
  constructor
  · exact fun fresh => absurd fresh started
  · rw [time]
    exact h.dispatcher
  · rw [time]
    exact turn.timely
  · rw [channel]
    exact h.prepared
  · rw [replies_append, quiet, List.append_nil]
    exact h.accepted
  · refine .inl ⟨?_, ?_, ?_, ?_⟩
    · rw [requests_append]
      exact List.not_mem_append before.unclosed unclosed
    · rw [replies_append, quiet, List.append_nil]
      exact before.batches
    · rw [produced_append, replies_append, quiet, idle, List.append_nil, List.append_nil]
      exact before.balanced
    · rcases before.standing with fresh | watching | ⟨⟨-, ended⟩, -⟩
      · exact .inl fresh
      · exact .inr (.inl watching)
      · rw [running] at ended
        cases ended

section Supervisor

theorem cleaner_step (s : Scheduler) (stage : Stage) :
    (s.step pace stage).1.cleaner = s.cleaner := by
  unfold Scheduler.step
  split <;> rfl

theorem supervise_ended
    (ended : x.scheduler.dispatcher.isOver = true ∧ x.scheduler.cleaner.isOver = true) :
    (x.supervise pace).scheduler.dispatcher.isOver = true ∧
      (x.supervise pace).scheduler.cleaner.isOver = true := by
  rw [Course.supervise, Timed.dispatcher_step, cleaner_step]
  exact ended

/-- A step of the scheduler itself leaves the workers alone, and their channel too as long as they
need it. -/
theorem frame (h : Disciplined pace candid x transcript) {shown : List Moment}
    (running : (x.supervise pace).scheduler.supervision ≠ .fresh)
    (channel : x.scheduler.dispatcher.isOver = true ∨
      (x.supervise pace).channelIsOpen = x.channelIsOpen)
    (accepted : ∀ b, (.publish b, .error .channelNotOpen) ∉ replies shown)
    (standing : Open (x.supervise pace) (transcript ++ shown) ∨
      Closed (x.supervise pace) (transcript ++ shown)) :
    Disciplined pace candid (x.supervise pace) (transcript ++ shown) := by
  have dispatcher : (x.supervise pace).scheduler.dispatcher = x.scheduler.dispatcher :=
    Timed.dispatcher_step _ _
  have cleaner : (x.supervise pace).scheduler.cleaner = x.scheduler.cleaner := cleaner_step _ _
  have time : (x.supervise pace).stage.time = x.stage.time := (SameTime.scheduler _ _ _).1
  constructor
  · exact fun fresh => absurd fresh running
  · rw [dispatcher, time]
    exact h.dispatcher
  · rw [cleaner, time]
    exact h.cleaner
  · rw [dispatcher]
    rcases channel with ended | same
    · exact Worker.prepared_over ended _
    · rw [same]
      exact h.prepared
  · intro sure b member
    rcases List.mem_append.mp (replies_append _ _ ▸ member) with earlier | now
    · exact h.accepted sure b earlier
    · exact accepted b now
  · exact standing

/-- The call that closes the connection is made and waits, or it is answered. -/
theorem closing_turn {phase : Phase}
    (closing : x.scheduler.supervision = .closing ⟨.closeConnection, phase⟩)
    (active : Performer.Active ⟨Shutdown.closeConnection, phase⟩) (tolerable : Tolerable x.stage) :
    (∃ due cut, phase = .acting ∧ x.closingMoments = [.made (.produce .closeConnection)] ∧
        (x.supervise pace).scheduler.supervision =
          .closing ⟨.closeConnection, .delayed due cut⟩) ∨
      ∃ answer, x.closingMoments = (Performer.issued? ⟨Shutdown.closeConnection, phase⟩).toList.map
          .made ++ [.told (.produce .closeConnection) answer] ∧
        (x.supervise pace).scheduler.supervision = .closing (.start .finished) := by
  have turn : Performer.Turn none _ (x.scheduler.scene x.stage) _ _ :=
    Performer.step_turn active rfl (tolerable.unbroken _) fun _ => tolerable.closes
  simp only [Course.closingMoments, Course.supervise, Scheduler.step, closing]
  generalize Performer.step none (⟨.closeConnection, phase⟩ : Performer Shutdown) _ = q at turn ⊢
  generalize Performer.moments none (⟨.closeConnection, phase⟩ : Performer Shutdown) _ = shown
    at turn ⊢
  cases turn with
  | waits asks acting =>
    cases asks
    exact .inl ⟨_, _, acting, rfl, rfl⟩
  | @answered _ _ a _ asks =>
    cases asks
    refine .inr ⟨a, rfl, ?_⟩
    cases a <;> rfl

/-- The connection has been told to be closed. -/
theorem close (h : Disciplined pace candid x transcript)
    (ended : x.scheduler.dispatcher.isOver = true ∧ x.scheduler.cleaner.isOver = true)
    {shown : List Moment} {answer : Except BrokerError Unit}
    (told : replies shown = [(.closeConnection, answer)])
    (closing : (x.supervise pace).scheduler.supervision = .closing (.start .finished))
    (batches : Batched [] (replies transcript))
    (last : Last (.produce .closeConnection) (requests (transcript ++ shown)))
    (balanced : produced (transcript ++ shown) =
      (replies transcript).map Prod.fst ++ [.closeConnection]) :
    Disciplined pace candid (x.supervise pace) (transcript ++ shown) := by
  refine h.frame (by simp [closing]) (.inl ended.1) ?_
    (.inr ⟨supervise_ended ended, last, .inr ?_⟩)
  · intro b member
    rw [told] at member
    have same := congrArg Prod.fst (List.mem_singleton.mp member)
    cases same
  · refine ⟨.inl closing, ⟨answer, ?_⟩, ?_⟩
    · rw [replies_append, told]
      exact batches.append rfl (.inl rfl)
    · rw [balanced, replies_append, told, List.map_append]
      rfl

/-- A step that shows nothing. -/
theorem quiet (h : Disciplined pace candid x transcript) (nothing : x.closingMoments = [])
    (running : (x.supervise pace).scheduler.supervision ≠ .fresh)
    (channel : x.scheduler.dispatcher.isOver = true ∨
      (x.supervise pace).channelIsOpen = x.channelIsOpen)
    (standing : Open (x.supervise pace) transcript ∨ Closed (x.supervise pace) transcript) :
    Disciplined pace candid (x.supervise pace) (transcript ++ x.closingMoments) := by
  refine h.frame running channel ?_ ?_
  · rw [nothing]
    exact fun b => List.not_mem_nil
  · rw [nothing, List.append_nil]
    exact standing

theorem supervise_opened (h : Disciplined pace candid x transcript) (opened : Open x transcript)
    {t : Nat} (due : x.scheduler.due x.stage = some t) (tolerable : Tolerable x.stage) :
    Disciplined pace candid (x.supervise pace) (transcript ++ x.closingMoments) := by
  have dispatcher : (x.supervise pace).scheduler.dispatcher = x.scheduler.dispatcher :=
    Timed.dispatcher_step _ _
  rcases opened.standing with fresh | watching | ⟨ended, closing⟩
  · have started : (x.supervise pace).scheduler.supervision = .watching := by
      simp only [Course.supervise, Scheduler.step, fresh]
    have channel : (x.supervise pace).channelIsOpen = x.channelIsOpen := by
      simp only [Course.channelIsOpen, Course.supervise, Scheduler.step, fresh]
    apply h.quiet
    · simp only [Course.closingMoments, fresh]
    · simp [started]
    · exact .inr channel
    · exact .inl (opened.frame dispatcher (.inr (.inl started)))
  · have started : (x.supervise pace).scheduler.supervision =
        .closing (.start .closeConnection) := by
      simp only [Course.supervise, Scheduler.step, watching]
    have ended : x.scheduler.dispatcher.isOver = true ∧ x.scheduler.cleaner.isOver = true := by
      simp only [Scheduler.due, watching, Option.ite_none_right_eq_some, Bool.and_eq_true] at due
      exact due.1
    apply h.quiet
    · simp only [Course.closingMoments, watching]
    · simp [started]
    · exact .inl ended.1
    · exact .inl (opened.frame dispatcher (.inr (.inr ⟨supervise_ended ended, started⟩)))
  · obtain ⟨begun, batches, underway⟩ := opened.batches
    have balanced := opened.balanced
    -- a dispatcher that is over has left nothing undone
    rw [Worker.pending_over ended.1, List.append_nil] at balanced
    rw [Worker.owed_over ended.1] at underway
    rw [underway.begun_eq_nil] at batches
    have last : Last (.produce .closeConnection)
        (requests transcript ++ [.produce .closeConnection]) := ⟨_, rfl, opened.unclosed⟩
    rcases closing_turn closing (.inl rfl) tolerable with
      ⟨due, cut, -, shown, waits⟩ | ⟨answer, shown, answered⟩
    · rw [shown]
      refine h.frame (waits.trans_ne (by simp)) (.inl ended.1) (fun b => List.not_mem_nil)
        (.inr ?_)
      refine ⟨supervise_ended ended, ?_, .inl ⟨⟨due, cut, waits⟩, ?_, ?_⟩⟩
      · rw [requests_append]
        exact last
      · rw [replies_append]
        exact (List.append_nil _).symm ▸ batches
      · rw [produced_append, replies_append, balanced, List.map_append, List.append_assoc]
        rfl
    · rw [shown]
      refine h.close ended rfl answered batches ?_ ?_
      · rw [requests_append]
        exact last
      · rw [produced_append, balanced]
        rfl

theorem supervise_closed (h : Disciplined pace candid x transcript) (closed : Closed x transcript)
    {t : Nat} (due : x.scheduler.due x.stage = some t) (tolerable : Tolerable x.stage) :
    Disciplined pace candid (x.supervise pace) (transcript ++ x.closingMoments) := by
  rcases closed.standing with
    ⟨⟨due, cut, closing⟩, batches, balanced⟩ | ⟨closing | stopped, word, balanced⟩
  · rcases closing_turn closing (.inr ⟨due, cut, rfl⟩) tolerable with
      ⟨_, _, acting, -⟩ | ⟨answer, shown, answered⟩
    · cases acting
    · rw [shown]
      refine h.close closed.ended rfl answered batches ?_ ?_
      · rw [requests_append]
        exact (List.append_nil _).symm ▸ closed.last
      · rw [produced_append, balanced]
        exact List.append_nil _
  · have stopped : (x.supervise pace).scheduler.supervision = .stopped := by
      simp only [Course.supervise, Scheduler.step, closing]
      rfl
    apply h.quiet
    · simp only [Course.closingMoments, closing]
      rfl
    · simp [stopped]
    · exact .inl closed.ended.1
    · exact .inr ⟨supervise_ended closed.ended, closed.last, .inr ⟨.inr stopped, word, balanced⟩⟩
  · simp only [Scheduler.due, stopped] at due
    cases due

theorem supervise (h : Disciplined pace candid x transcript) {t : Nat}
    (due : x.scheduler.due x.stage = some t) (tolerable : Tolerable x.stage) :
    Disciplined pace candid (x.supervise pace) (transcript ++ x.closingMoments) := by
  rcases h.standing with opened | closed
  · exact h.supervise_opened opened due tolerable
  · exact h.supervise_closed closed due tolerable

end Supervisor

theorem dispatcherDue (h : Disciplined pace candid x transcript) {t : Ticker}
    {p : Performer Dispatch} (cycling : x.scheduler.dispatcher = .cycling t p) :
    x.scheduler.dispatcherDue x.stage = x.scheduler.dispatcher.due (x.scheduler.scene x.stage) :=
  Scheduler.workerDue_of_started (fun fresh => (h.fresh fresh).1) (by simp [cycling])

theorem cleanerDue (h : Disciplined pace candid x transcript) {t : Ticker}
    {p : Performer Cleanup} (cycling : x.scheduler.cleaner = .cycling t p) :
    x.scheduler.cleanerDue x.stage = x.scheduler.cleaner.due (x.scheduler.scene x.stage) :=
  Scheduler.workerDue_of_started (fun fresh => (h.fresh fresh).2) (by simp [cycling])

/-- Time passes no further than to what is due. -/
theorem others (h : Disciplined pace candid x transcript) {stage : Stage}
    (later : x.stage.time ≤ stage.time)
    (punctual : ∀ t, x.Due t → stage.time ≤ max t x.stage.time) :
    Disciplined pace candid { x with stage } transcript := by
  constructor
  · exact h.fresh
  · intro t p cycling
    refine h.dispatcher.pass (s := x.scheduler.scene x.stage) later (fun t due => ?_) t p cycling
    exact punctual t (.inl ((h.dispatcherDue cycling).trans due))
  · intro t p cycling
    refine h.cleaner.pass (s := x.scheduler.scene x.stage) later (fun t due => ?_) t p cycling
    exact punctual t (.inr (.inl ((h.cleanerDue cycling).trans due)))
  · exact h.prepared
  · exact h.accepted
  · rcases h.standing with opened | closed
    · exact .inl (opened.frame rfl opened.standing)
    · exact .inr ⟨closed.ended, closed.last, closed.standing⟩

theorem turn {y : Course} {shown : List Moment} (h : Disciplined pace candid x transcript)
    (turn : Course.Turn pace x shown y) (tolerable : Tolerable x.stage)
    (honest : candid → Candid x.stage) : Disciplined pace candid y (transcript ++ shown) := by
  cases turn with
  | dispatcher due => exact h.dispatch due tolerable honest
  | cleaner due => exact h.cleanup due tolerable
  | supervisor due => exact h.supervise due tolerable
  | others stage clock later punctual =>
    rw [List.append_nil]
    exact h.others later punctual

theorem stretch {holds : Stage → Prop} {y : Course} {later : List Moment}
    (h : Disciplined pace candid x transcript) (stretch : Course.Stretch pace holds x later y)
    (tolerable : ∀ s, holds s → Tolerable s) (honest : candid → ∀ s, holds s → Candid s) :
    Disciplined pace candid y (transcript ++ later) := by
  induction stretch with
  | start =>
    rw [List.append_nil]
    exact h
  | turn before next _ ih =>
    rw [← List.append_assoc]
    exact ih.turn next (tolerable _ before.now) fun sure => honest sure _ before.now

/-- A scheduler that has stopped has closed the connection. -/
theorem stopped (h : Disciplined pace candid x transcript) (ended : x.scheduler.isOver = true) :
    Closed x transcript ∧ Word (replies transcript) ∧
      produced transcript = (replies transcript).map Prod.fst := by
  have going (supervision : x.scheduler.supervision = .fresh ∨ x.scheduler.supervision = .watching ∨
      ∃ p, x.scheduler.supervision = .closing p) : False := by
    unfold Scheduler.isOver at ended
    rcases supervision with fresh | watching | ⟨p, closing⟩
    · rw [fresh] at ended
      cases ended
    · rw [watching] at ended
      cases ended
    · rw [closing] at ended
      cases ended
  rcases h.standing with opened | closed
  · rcases opened.standing with fresh | watching | ⟨-, closing⟩
    · exact (going (.inl fresh)).elim
    · exact (going (.inr (.inl watching))).elim
    · exact (going (.inr (.inr ⟨_, closing⟩))).elim
  · rcases closed.standing with ⟨⟨due, cut, closing⟩, -⟩ | ⟨-, word, balanced⟩
    · exact (going (.inr (.inr ⟨_, closing⟩))).elim
    · exact ⟨closed, word, balanced⟩

/-- At any time the calls are batches, of which the last may be in progress, or the connection is
closed after them. -/
theorem batches (h : Disciplined pace candid x transcript) : ∃ begun,
    Batched begun (replies transcript) ∧ (Underway begun x.scheduler.dispatcher.owed ∨
      ∃ answer, begun = [(.closeConnection, answer)]) := by
  rcases h.standing with opened | closed
  · obtain ⟨begun, batches, underway⟩ := opened.batches
    exact ⟨begun, batches, .inl underway⟩
  · rcases closed.standing with ⟨-, batches, -⟩ | ⟨-, ⟨answer, batches⟩, -⟩
    · exact ⟨[], batches, .inl (.inl ⟨rfl, Worker.owed_over closed.ended.1⟩)⟩
    · exact ⟨_, batches, .inr ⟨answer, rfl⟩⟩

/-- The connection is left alone during a batch. -/
theorem quiet_of_owed (h : Disciplined pace candid x transcript)
    (some : x.scheduler.dispatcher.owed ≠ []) : x.closingMoments = [] := by
  have running : x.scheduler.dispatcher.isOver ≠ true := fun ended =>
    some (Worker.owed_over ended)
  rcases (h.isOpen fun ended => running ended.1).standing with fresh | watching | ⟨ended, -⟩
  · simp only [Course.closingMoments, fresh]
  · simp only [Course.closingMoments, watching]
  · exact absurd ended.1 running

/-- Until the scheduler has stopped something of it is due, and soon if its workers are to stop. -/
theorem due (h : Disciplined pace candid x transcript) (going : x.scheduler.isOver = false) :
    ∃ t, x.Due t ∧ ((x.scheduler.dispatcher.isOver && x.scheduler.cleaner.isOver) = false →
      (x.scheduler.scene x.stage).isCancelled = true →
      t ≤ x.stage.time + pace.operationTimeout.milliseconds) := by
  have closing (p : Performer Shutdown) (active : p.Active)
      (standing : x.scheduler.supervision = .closing p) :
      ∃ t, x.scheduler.due x.stage = some t := by
    rcases active with acting | ⟨due, cut, delayed⟩
    · refine ⟨x.stage.time, ?_⟩
      simp only [Scheduler.due, standing, Performer.due, acting]
      rfl
    · refine ⟨due, ?_⟩
      simp only [Scheduler.due, standing, Performer.due, delayed]
  have late (ended : x.scheduler.dispatcher.isOver = true ∧ x.scheduler.cleaner.isOver = true)
      (due : ∃ t, x.scheduler.due x.stage = some t) : ∃ t, x.Due t ∧
        ((x.scheduler.dispatcher.isOver && x.scheduler.cleaner.isOver) = false →
          (x.scheduler.scene x.stage).isCancelled = true →
          t ≤ x.stage.time + pace.operationTimeout.milliseconds) := by
    obtain ⟨t, due⟩ := due
    refine ⟨t, .inr (.inr due), fun running => ?_⟩
    rw [ended.1, ended.2] at running
    cases running
  rcases h.standing with opened | closed
  · rcases opened.standing with fresh | watching | ⟨ended, standing⟩
    · refine ⟨x.stage.time, .inr (.inr ?_), fun _ _ => Nat.le_add_right _ _⟩
      simp only [Scheduler.due, fresh]
    · have running : x.scheduler.supervision ≠ .fresh := by
        simp [watching]
      cases dispatched : x.scheduler.dispatcher.isOver with
      | false =>
        obtain ⟨t, due, soon⟩ := h.dispatcher.due (s := x.scheduler.scene x.stage) dispatched
        have own := Scheduler.workerDue_of_running running x.scheduler.dispatcher x.stage
        exact ⟨t, .inl (own.trans due), fun _ => soon⟩
      | true => cases cleaned : x.scheduler.cleaner.isOver with
        | false =>
          obtain ⟨t, due, soon⟩ := h.cleaner.due (s := x.scheduler.scene x.stage) cleaned
          have own := Scheduler.workerDue_of_running running x.scheduler.cleaner x.stage
          exact ⟨t, .inr (.inl (own.trans due)), fun _ => soon⟩
        | true =>
          have due : x.scheduler.due x.stage = some x.stage.time := by
            simp only [Scheduler.due, watching, dispatched, cleaned, Bool.and_self, if_true]
          refine ⟨_, .inr (.inr due), fun running => ?_⟩
          cases running
    · exact late ended (closing _ (.inl rfl) standing)
  · rcases closed.standing with ⟨⟨due, cut, standing⟩, -⟩ | ⟨standing | stopped, -⟩
    · exact late closed.ended (closing _ (.inr ⟨due, cut, rfl⟩) standing)
    · exact late closed.ended (closing _ (.inl rfl) standing)
    · simp only [Scheduler.isOver, stopped] at going
      cases going

end Disciplined

end Agenda.Rehearsal
