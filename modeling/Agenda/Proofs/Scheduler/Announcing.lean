import Agenda.Proofs.Scheduler.Solo
import Agenda.Proofs.Storage.Ranges
import Agenda.Proofs.Window

/-! One dispatch cycle announces all that is due, each event once and in order, whatever befalls its
calls. -/
namespace Agenda

namespace Solo

/-- A producer call is answered well unless it meets with a mishap. -/
def Fits (limit : Duration) (mishaps : Mishaps) (n : Nat) : Answered → Prop
  | ⟨.produce call, a⟩ => a = match mishaps n (.produce call) with
    | none => .ok ()
    | some m => m.answer limit (.produce call)
  | _ => True

variable {limit : Duration} {mishaps : Mishaps} {t : Solo Dispatch}

/-- The channel is open where something is to be published, and calls to the broker have failed by
mishaps only. -/
structure Candid (limit : Duration) (mishaps : Mishaps) (t : Solo Dispatch) : Prop where
  channel : ∀ e later count, t.state = .publish e later count → t.endpoint.producer.isOpen = true
  told : ∀ n entry, t.log[n]? = some entry → Fits limit mishaps n entry

theorem told_concat {log : List Answered} {entry : Answered}
    (told : ∀ n entry, log[n]? = some entry → Fits limit mishaps n entry)
    (fits : Fits limit mishaps log.length entry) (n : Nat) (other : Answered)
    (nth : (log ++ [entry])[n]? = some other) : Fits limit mishaps n other := by
  by_cases old : n < log.length
  · rw [List.getElem?_append_left old] at nth
    exact told n other nth
  · rw [List.getElem?_append_right (Nat.le_of_not_lt old), List.getElem?_singleton] at nth
    split at nth
    · cases nth
      rwa [show n = log.length by omega]
    · cases nth

theorem fits_amiss {c : Call} {n : Nat} {m : Mishap} (amiss : mishaps n c = some m) :
    Fits limit mishaps n ⟨c, m.answer limit c⟩ := by
  cases c with
  | produce call => simp only [Fits, amiss]
  | insert | save | delete | findByStartDate | findByRemindIn | record | consume => trivial

theorem fits_well {call : ProducerCall} {n : Nat} {a : Except BrokerError Unit}
    (well : mishaps n (.produce call) = none) (ok : a = .ok ()) :
    Fits limit mishaps n ⟨.produce call, a⟩ := by
  simp only [Fits, well, ok]

namespace Candid

theorem start (now : Timestamp) (interval : Duration) (x : Endpoint) (s : LocalService) :
    Candid limit mishaps (Solo.start (Dispatch.start now interval) x s) where
  channel _ _ _ publishing := by cases publishing
  told _ _ nth := by cases nth

theorem ask (h : Candid limit mishaps t) : Candid limit mishaps (t.ask limit mishaps) := by
  have move {d : Dispatch} (state : t.state = d) : Machine.move t.state = d.move :=
    congrArg Dispatch.move state
  cases state : t.state with
  | finished =>
    rwa [ask_halts (move state)]
  | query window =>
    have asks := move state
    obtain ⟨a, after, log⟩ := ask_answered limit mishaps asks
    refine ⟨?_, ?_⟩
    · intro e later count publishing
      rw [after] at publishing
      cases a with
      | ok due => cases publishing
      | error error => cases error <;> cases publishing
    · rw [log]
      exact told_concat h.told trivial
  | openChannel due =>
    have asks := move state
    cases fate : mishaps t.log.length (.produce .openChannel) with
    | none =>
      rw [ask_well asks fate]
      exact ⟨fun _ _ _ _ => rfl, told_concat h.told (fits_well fate rfl)⟩
    | some m =>
      rw [ask_amiss asks fate]
      refine ⟨?_, told_concat h.told (fits_amiss fate)⟩
      intro e later count publishing
      obtain ⟨storage, broker, failed⟩ := m.answer_eq_failed limit (.produce .openChannel)
      rw [failed] at publishing
      cases publishing
  | publish e later count =>
    have asks := move state
    have isOpen : t.endpoint.producer.isOpen = true := h.channel e later count state
    cases fate : mishaps t.log.length (Dispatch.announcement e) with
    | none =>
      rw [ask_well asks fate, t.service.answer_publish isOpen]
      exact ⟨fun _ _ _ _ => isOpen, told_concat h.told (fits_well fate rfl)⟩
    | some m =>
      rw [ask_amiss asks fate]
      exact ⟨fun _ _ _ _ => isOpen, told_concat h.told (fits_amiss fate)⟩
  | closeChannel count =>
    have asks := move state
    cases fate : mishaps t.log.length (.produce .closeChannel) with
    | none =>
      rw [ask_well asks fate]
      refine ⟨?_, told_concat h.told (fits_well fate rfl)⟩
      intro e later left publishing
      cases publishing
    | some m =>
      rw [ask_amiss asks fate]
      refine ⟨?_, told_concat h.told (fits_amiss fate)⟩
      intro e later left publishing
      obtain ⟨storage, broker, failed⟩ := m.answer_eq_failed limit (.produce .closeChannel)
      rw [failed] at publishing
      cases publishing

theorem run (h : Candid limit mishaps t) (turns : List Turn) :
    Candid limit mishaps (t.run limit mishaps turns) := by
  induction turns generalizing t with
  | nil => exact h
  | cons turn later ih =>
    cases turn with
    | cycle => exact ih h.ask
    | client c => exact ih ⟨h.channel, h.told⟩

end Candid

/-! ## The calls -/

section Calls

variable (limit : Duration) (mishaps : Mishaps) {now : Timestamp} {interval : Duration}
  {x : Endpoint} {s : LocalService} {turns : List Turn}

/-- What a cycle finds that queries the storage. -/
def due (now : Timestamp) (interval : Duration) (store : EventStore) : List Event :=
  Query.select (·.remindsWithin (Dispatch.window now interval)) (·.remindIn) store.items

/-- A cycle that is told of an event goes on, and any other ends. -/
theorem ask_query (now : Timestamp) (interval : Duration) (x : Endpoint) (s : LocalService) :
    let first := (start (Dispatch.start now interval) x s).ask limit mishaps
    first.log.map (·.1) = [.findByRemindIn (Dispatch.window now interval)] ∧
    first.state = if mishaps 0 (.findByRemindIn (Dispatch.window now interval)) = none ∧
        due now interval s.events ≠ [] then .openChannel (due now interval s.events)
      else .finished := by
  intro first
  cases fate : mishaps 0 (.findByRemindIn (Dispatch.window now interval)) with
  | none =>
    have after : first = _ := ask_well (t := start (Dispatch.start now interval) x s) rfl fate
    refine ⟨by rw [after]; rfl, ?_⟩
    have told : (s.answer x (.findByRemindIn (Dispatch.window now interval))).1 =
        Query.answer (due now interval s.events) := rfl
    by_cases none : due now interval s.events = []
    · rw [if_neg fun found => found.2 none, after, start, told, none]
      rfl
    · rw [if_pos ⟨rfl, none⟩, after, start, told, Query.answer_eq_ok.mpr ⟨rfl, none⟩]
  | some m =>
    have after : first = _ := ask_amiss (t := start (Dispatch.start now interval) x s) rfl fate
    refine ⟨by rw [after]; rfl, ?_⟩
    obtain ⟨storage, broker, failed⟩ := m.answer_eq_failed limit
      (.findByRemindIn (Dispatch.window now interval))
    rw [if_neg fun found => Option.some_ne_none m found.1, after, failed]
    cases storage <;> rfl

/-- A cycle whose channel opens goes on, and any other ends. -/
theorem ask_opening {found : List Event} (state : t.state = .openChannel found) :
    (t.ask limit mishaps).log.map (·.1) = t.log.map (·.1) ++ [.produce .openChannel] ∧
    (t.ask limit mishaps).state = if mishaps t.log.length (.produce .openChannel) = none then
      Dispatch.proceed found.length found else .finished := by
  have asks : Machine.move t.state = Dispatch.move (.openChannel found) :=
    congrArg Dispatch.move state
  cases fate : mishaps t.log.length (.produce .openChannel) with
  | none =>
    rw [ask_well asks fate]
    exact ⟨List.map_append, rfl⟩
  | some m =>
    rw [ask_amiss asks fate]
    obtain ⟨storage, broker, failed⟩ := m.answer_eq_failed limit (.produce .openChannel)
    refine ⟨List.map_append, ?_⟩
    rw [failed]
    rfl

/-- A cycle that is not told of any event calls nobody any more. -/
theorem run_idle (idle : mishaps 0 (.findByRemindIn (Dispatch.window now interval)) ≠ none ∨
    due now interval s.events = []) :
    let last := (start (Dispatch.start now interval) x s).run limit mishaps (.cycle :: turns)
    last.state = .finished ∧
      last.log.map (·.1) = [.findByRemindIn (Dispatch.window now interval)] := by
  obtain ⟨log, state⟩ := ask_query limit mishaps now interval x s
  rw [if_neg fun found => idle.elim (· found.1) found.2] at state
  obtain ⟨calls, settled⟩ := run_settled limit mishaps (Dispatch.decided_nil_iff.mpr state) turns
    (Nat.zero_le _)
  exact ⟨Dispatch.decided_nil_iff.mp settled, by rw [log] at calls; exact calls⟩

/-- A cycle that is told of events opens its channel next. -/
theorem run_told (well : mishaps 0 (.findByRemindIn (Dispatch.window now interval)) = none)
    (some : due now interval s.events ≠ []) (turn : 0 < cycles turns) :
    ∃ u : Solo Dispatch, ∃ later, cycles turns = cycles later + 1 ∧
      (u.log.map (·.1) =
        [.findByRemindIn (Dispatch.window now interval), .produce .openChannel]) ∧
      (u.state = if mishaps 1 (.produce .openChannel) = none then
        Dispatch.proceed (due now interval s.events).length (due now interval s.events)
        else .finished) ∧
      (start (Dispatch.start now interval) x s).run limit mishaps (.cycle :: turns) =
        u.run limit mishaps later := by
  obtain ⟨log, state⟩ := ask_query limit mishaps now interval x s
  rw [if_pos ⟨well, some⟩] at state
  obtain ⟨t, later, sameState, sameLog, count, same⟩ :=
    run_next limit mishaps turn ((start (Dispatch.start now interval) x s).ask limit mishaps)
  rw [← sameLog] at log
  obtain ⟨opening, after⟩ := ask_opening limit mishaps (sameState.trans state)
  have first : t.log.length = 1 := by rw [← List.length_map, log]; rfl
  rw [first] at after
  rw [log] at opening
  exact ⟨t.ask limit mishaps, later, count, opening, after, same⟩

/-- The calls of a cycle, and that it makes them all. -/
theorem run_finished (enough : (due now interval s.events).length + 2 ≤ cycles turns) :
    let last := (start (Dispatch.start now interval) x s).run limit mishaps (.cycle :: turns)
    last.state = .finished ∧ last.log.map (·.1) =
      if mishaps 0 (.findByRemindIn (Dispatch.window now interval)) ≠ none ∨
          due now interval s.events = [] then
        [.findByRemindIn (Dispatch.window now interval)]
      else if mishaps 1 (.produce .openChannel) ≠ none then
        [.findByRemindIn (Dispatch.window now interval), .produce .openChannel]
      else .findByRemindIn (Dispatch.window now interval) :: .produce .openChannel ::
        (due now interval s.events).map Dispatch.announcement ++ [.produce .closeChannel] := by
  intro last
  by_cases idle : mishaps 0 (.findByRemindIn (Dispatch.window now interval)) ≠ none ∨
      due now interval s.events = []
  · rw [if_pos idle]
    exact run_idle limit mishaps idle
  rw [if_neg idle]
  obtain ⟨well, some⟩ := not_or.mp idle
  obtain ⟨u, later, count, log, state, same⟩ := run_told (x := x) (s := s) limit mishaps
    (not_not.mp well) some (Nat.lt_of_lt_of_le (Nat.succ_pos _) enough)
  rw [show last = _ from same]
  by_cases opens : mishaps 1 (.produce .openChannel) = none
  · rw [if_neg (not_not.mpr opens)]
    rw [if_pos opens] at state
    obtain ⟨calls, settled⟩ := run_settled limit mishaps
      (state ▸ Dispatch.decided_proceed _ (due now interval s.events)) later
      (by rw [List.length_append, List.length_map, List.length_singleton]; omega)
    exact ⟨Dispatch.decided_nil_iff.mp settled, by rw [calls, log]; rfl⟩
  · rw [if_pos opens]
    rw [if_neg opens] at state
    obtain ⟨calls, settled⟩ := run_settled limit mishaps (Dispatch.decided_nil_iff.mpr state) later
      (Nat.zero_le _)
    exact ⟨Dispatch.decided_nil_iff.mp settled, by rw [calls, log]; rfl⟩

end Calls

end Solo

open Solo

/-- **What is due is announced, whatever fails.** A cycle that queries the storage at `now` looks
for the reminders in as many seconds from `now` on as the interval has, but in one at least. Of the
events that are stored then with such a reminder it tries to announce each exactly once, in the
order of reminders and ids, after it has opened its channel and before it closes it, and no others.
Only a query that finds none or fails and a channel that does not open end it earlier; nothing else
that befalls its calls does, nor what clients do to the storage meanwhile. Its calls to the broker
fail where there are mishaps and nowhere else, and the queue afterwards is the queue before with
what was published without one, in that order. -/
theorem due_announced_once (now : Timestamp) (interval : Duration) (x : Endpoint)
    {s : LocalService} (keyed : s.events.Keyed Event.id) :
    let query := Call.findByRemindIn (Dispatch.window now interval)
    let opening := Call.produce .openChannel
    ∃ due : List Event, due.Nodup ∧ due.Pairwise (Query.Before (·.remindIn)) ∧
      (∀ e, e ∈ due ↔ s.events.Holds e ∧ now.seconds ≤ e.remindIn.seconds ∧
        e.remindIn.seconds <
          now.seconds + max 1 (min (interval.seconds : Int) 9223372036854775807)) ∧
      ∀ (limit : Duration) (mishaps : Mishaps) (turns : List Turn),
        due.length + 2 ≤ cycles turns →
        let last := (start (Dispatch.start now interval) x s).run limit mishaps (.cycle :: turns)
        last.state = .finished ∧
        (last.log.map (·.1) =
          if mishaps 0 query ≠ none ∨ due = [] then [query]
          else if mishaps 1 opening ≠ none then [query, opening]
          else query :: opening ::
            due.map (fun e => .produce (.publish (Notification.ofEvent e).toBytes)) ++
              [.produce .closeChannel]) ∧
        (∀ n call a, last.log[n]? = some ⟨.produce call, a⟩ →
          a = match mishaps n (.produce call) with
            | none => .ok ()
            | some m => m.answer limit (.produce call)) ∧
        last.service.broker.queue.messages =
          s.broker.queue.messages ++ (published last.log).map (⟨·, 0⟩) := by
  intro query opening
  have selects : Query.Selects (·.remindIn) _ s.events.Holds (due now interval s.events) :=
    EventStore.selects_items keyed
  refine ⟨due now interval s.events, selects.once, selects.ordered, ?_, ?_⟩
  · intro e
    rw [selects.complete, ← TimeSpan.contains_iff, Dispatch.window_contains]
  intro limit mishaps turns enough last
  obtain ⟨finished, calls⟩ := run_finished limit mishaps enough
  have candid : Candid limit mishaps last := (Candid.start now interval x s).run _
  obtain ⟨made, grows⟩ := run_grows limit mishaps
    (start (Dispatch.start now interval) x s) (.cycle :: turns)
  have log : last.log = made := grows.log
  exact ⟨finished, calls, fun n call a nth => candid.told n _ nth, log ▸ grows.queue⟩

/-! Of two reminders the first cannot be published, and the second is of an event that a client has
deleted in between. -/

open StorageCall in
theorem deleted_recital_announced :
    let s := (LocalService.new 5).serveAll premiere
    let mishaps : Mishaps := fun n _ => if n = 2 then some .unanswered else none
    let turns : List Turn := [.cycle, .client (.delete "é"), .cycle, .cycle, .cycle]
    let last := (start (Dispatch.start .zero (.ofSeconds 60)) .new s).run (.ofSeconds 1) mishaps
      (.cycle :: turns)
    s.events.Keyed Event.id ∧ 2 + 2 ≤ cycles turns ∧ last.state = .finished ∧
      last.log.map (·.1) = [.findByRemindIn (Dispatch.window .zero (.ofSeconds 60)),
        .produce .openChannel, Dispatch.announcement rehearsal, Dispatch.announcement recital,
        .produce .closeChannel] ∧
      last.service.broker.queue.messages = [⟨(Notification.ofEvent recital).toBytes, 0⟩] := by
  intro s mishaps turns last
  have keyed : s.events.Keyed Event.id :=
    LocalService.serveAll_keyed Collection.keyed_empty premiere
  have items : s.events.items = [rehearsal, recital] := by cbv
  obtain ⟨due, -, ordered, complete, announced⟩ :=
    due_announced_once .zero (.ofSeconds 60) .new keyed
  have found : due = [rehearsal, recital] := by
    have inside : ∀ e ∈ [rehearsal, recital], Timestamp.zero.seconds ≤ e.remindIn.seconds ∧
        e.remindIn.seconds < Timestamp.zero.seconds + max 1 (min 60 9223372036854775807) := by
      decide
    apply Query.eq_of_ordered ordered (by decide)
    intro e
    rw [complete, EventStore.Holds, ← Collection.mem_items_iff keyed, items]
    exact and_iff_left_of_imp (inside e)
  subst found
  obtain ⟨finished, calls, -, queue⟩ := announced (.ofSeconds 1) mishaps turns (by decide)
  refine ⟨keyed, by decide, finished, calls, queue.trans ?_⟩
  cbv

end Agenda
