import Agenda.Proofs.Scheduler.Solo
import Agenda.Proofs.Storage.Ranges
import Agenda.Proofs.Window

/-! One cleanup cycle tries to remove all that has expired, each event once and in order, and
nothing else, whatever befalls its calls. -/
namespace Agenda

namespace Solo

variable {limit : Duration} {mishaps : Mishaps} {t : Solo Cleanup} {found : List Event}
  {id : String}

/-- One of the deletions of these events, which are made from the `n`th call on, takes away the id
without a mishap. -/
def Deletes (mishaps : Mishaps) (n : Nat) (found : List Event) (id : String) : Prop :=
  ∃ i e, found[i]? = some e ∧ e.id = id ∧ mishaps (n + i) (.delete id) = none

theorem not_deletes_nil {n : Nat} : ¬ Deletes mishaps n [] id := by
  rintro ⟨i, e, nth, -⟩
  cases nth

theorem deletes_cons_iff {n : Nat} {e : Event} : Deletes mishaps n (e :: found) id ↔
    e.id = id ∧ mishaps n (.delete id) = none ∨ Deletes mishaps (n + 1) found id := by
  constructor
  · rintro ⟨i, d, nth, own, well⟩
    cases i with
    | zero =>
      cases nth
      exact .inl ⟨own, well⟩
    | succ i => exact .inr ⟨i, d, nth, own, by rwa [Nat.add_assoc, Nat.add_comm 1 i]⟩
  · rintro (⟨own, well⟩ | ⟨i, d, nth, own, well⟩)
    · exact ⟨0, e, rfl, own, well⟩
    · exact ⟨i + 1, d, nth, own, by rwa [Nat.add_comm i 1, ← Nat.add_assoc]⟩

/-- The storage is as it was under an id, or the deletions have taken it away. -/
structure Spared (mishaps : Mishaps) (found : List Event) (id : String) (t last : Solo Cleanup) :
    Prop where
  gone : Deletes mishaps t.log.length found id → last.service.events.find? id = none
  same : ¬ Deletes mishaps t.log.length found id →
    last.service.events.find? id = t.service.events.find? id

/-- What the first deletion has taken away stays away, and else the later ones decide. -/
theorem Spared.cons {e : Event} {u last : Solo Cleanup} (h : Spared mishaps found id u last)
    (count : u.log.length = t.log.length + 1)
    (first : u.service.events.find? id =
      if e.id = id ∧ mishaps t.log.length (.delete id) = none then none
      else t.service.events.find? id) : Spared mishaps (e :: found) id t last := by
  obtain ⟨gone, same⟩ := h
  rw [count] at gone same
  constructor
  · intro deletes
    by_cases again : Deletes mishaps (t.log.length + 1) found id
    · exact gone again
    · have own := (deletes_cons_iff.mp deletes).resolve_right again
      exact (same again).trans (first.trans (if_pos own))
  · intro kept
    obtain ⟨own, again⟩ := not_or.mp (mt deletes_cons_iff.mpr kept)
    exact (same again).trans (first.trans (if_neg own))

variable (limit mishaps)

/-- A deletion that nothing befalls takes its event away, and the cycle goes on in any case. -/
theorem ask_delete {e : Event} {later : List Event} {count : Nat} (id : String)
    (state : t.state = .delete e later count) : ∃ notices,
      (t.ask limit mishaps).state = (Cleanup.proceed count notices later).1 ∧
      (t.ask limit mishaps).log.length = t.log.length + 1 ∧
      (t.ask limit mishaps).service.events.find? id =
        if e.id = id ∧ mishaps t.log.length (.delete id) = none then none
        else t.service.events.find? id := by
  have asks : Machine.move t.state = Cleanup.move (.delete e later count) :=
    congrArg Cleanup.move state
  obtain ⟨a, after, log⟩ := ask_answered limit mishaps asks
  have next : ∃ notices,
      (t.ask limit mishaps).state = (Cleanup.proceed count notices later).1 := by
    rw [after]
    cases a with
    | ok => exact ⟨_, rfl⟩
    | error error => cases error <;> exact ⟨_, rfl⟩
  obtain ⟨notices, next⟩ := next
  refine ⟨notices, next, by rw [log, List.length_append, List.length_singleton], ?_⟩
  cases fate : mishaps t.log.length (.delete e.id) with
  | none =>
    rw [ask_well asks fate, t.service.find?_delete]
    by_cases own : e.id = id
    · rw [if_pos own.symm, if_pos ⟨own, own ▸ fate⟩]
    · rw [if_neg (Ne.symm own), if_neg fun gone => own gone.1]
  | some m =>
    rw [ask_amiss asks fate, if_neg]
    rintro ⟨rfl, well⟩
    rw [fate] at well
    cases well

/-- The induction is on the turns; those of clients do not concern the id. -/
theorem run_spared {count : Nat} {notices : List Notice} {turns : List Turn}
    (state : t.state = (Cleanup.proceed count notices found).1)
    (enough : found.length ≤ cycles turns) (spares : ∀ turn ∈ turns, turn.spares id) :
    Spared mishaps found id t (t.run limit mishaps turns) := by
  induction turns generalizing t found notices with
  | nil =>
    have none : found = [] := List.eq_nil_of_length_eq_zero (Nat.le_zero.mp enough)
    subst none
    exact ⟨fun gone => absurd gone not_deletes_nil, fun _ => rfl⟩
  | cons turn rest ih =>
    have others : ∀ turn ∈ rest, turn.spares id := fun turn later =>
      spares turn (List.mem_cons_of_mem _ later)
    cases turn with
    | client c =>
      have same := t.service.serve_other c (spares _ List.mem_cons_self)
      have next := ih (t := t.step limit mishaps (.client c)) state enough others
      exact ⟨next.gone, fun kept => (next.same kept).trans same⟩
    | cycle =>
      cases found with
      | nil =>
        have idle : t.step limit mishaps .cycle = t :=
          ask_halts (congrArg Cleanup.move state)
        rw [run, List.foldl_cons, idle]
        exact ih state (Nat.zero_le _) others
      | cons e later =>
        obtain ⟨notices, next, count, first⟩ := ask_delete limit mishaps id state
        have after := ih (t := t.step limit mishaps .cycle) next (Nat.le_of_succ_le_succ enough)
          others
        exact after.cons count first

/-! ## The query -/

section Query

variable (now : Timestamp) (interval : Duration) (x : Endpoint) (s : LocalService)

/-- What a cycle finds that queries the storage, unless its query fails. -/
def expired (store : EventStore) : List Event :=
  if mishaps 0 (.findByStartDate (Cleanup.window now interval)) = none then
    Query.select (·.startsWithin (Cleanup.window now interval)) (·.startDate) store.items
  else []

theorem ask_expired : ∃ notices,
    let first := (start (Cleanup.start now interval) x s).ask limit mishaps
    let found := expired mishaps now interval s.events
    first.log.map (·.1) = [.findByStartDate (Cleanup.window now interval)] ∧
      first.service = s ∧ first.state = (Cleanup.proceed found.length notices found).1 := by
  cases fate : mishaps 0 (.findByStartDate (Cleanup.window now interval)) with
  | none =>
    rw [ask_well (t := start (Cleanup.start now interval) x s) rfl fate, expired, if_pos fate]
    refine ⟨[], rfl, rfl, ?_⟩
    have told : (s.answer x (.findByStartDate (Cleanup.window now interval))).1 =
      Query.answer (Query.select (·.startsWithin (Cleanup.window now interval)) (·.startDate)
        s.events.items) := rfl
    by_cases none : Query.select (·.startsWithin (Cleanup.window now interval)) (·.startDate)
        s.events.items = []
    · rw [start, told, none]
      rfl
    · rw [start, told, Query.answer_eq_ok.mpr ⟨rfl, none⟩]
  | some m =>
    rw [ask_amiss (t := start (Cleanup.start now interval) x s) rfl fate, expired,
      if_neg (fate ▸ Option.some_ne_none m)]
    obtain ⟨storage, broker, failed⟩ := m.answer_eq_failed limit
      (.findByStartDate (Cleanup.window now interval))
    rw [failed]
    refine ⟨[], rfl, rfl, ?_⟩
    cases storage <;> rfl

end Query
end Solo

open Solo

/-- **What has expired is removed, whatever fails, and nothing else.** A cycle that queries the
storage at `now` looks for the events that start in as many seconds from the beginning of the
retention time on as the interval has, but in one at least. Of those that are stored then it tries
to delete each exactly once, in the order of starts and ids, and no others, unless its query fails.
Neither a deletion that fails nor an event that a client has deleted before keeps it from the rest.
Under the ids that clients leave alone there is nothing afterwards where its deletion met with no
mishap, and elsewhere what was there before. -/
theorem expired_removed_once (now : Timestamp) (interval : Duration) (x : Endpoint)
    {s : LocalService} (keyed : s.events.Keyed Event.id) :
    let query := Call.findByStartDate (Cleanup.window now interval)
    ∃ expired : List Event, expired.Nodup ∧ expired.Pairwise (Query.Before (·.startDate)) ∧
      (∀ e, e ∈ expired ↔ s.events.Holds e ∧
        (retentionStart now).seconds ≤ e.startDate.seconds ∧ e.startDate.seconds <
          (retentionStart now).seconds + max 1 (min (interval.seconds : Int) 9223372036854775807)) ∧
      ∀ (limit : Duration) (mishaps : Mishaps) (turns : List Turn),
        expired.length ≤ cycles turns →
        let found := if mishaps 0 query = none then expired else []
        let last := (start (Cleanup.start now interval) x s).run limit mishaps (.cycle :: turns)
        last.state = .finished ∧
        last.log.map (·.1) = query :: found.map (.delete ·.id) ∧
        ∀ id, (∀ turn ∈ turns, turn.spares id) →
          let removed := ∃ n e, found[n]? = some e ∧ e.id = id ∧
            mishaps (1 + n) (.delete id) = none
          (removed → last.service.events.find? id = none) ∧
          (¬ removed → last.service.events.find? id = s.events.find? id) := by
  intro query
  have selects : Query.Selects (·.startDate) (Cleanup.window now interval) s.events.Holds _ :=
    EventStore.selects_items keyed
  refine ⟨_, selects.once, selects.ordered, ?_, ?_⟩
  · intro e
    rw [selects.complete, ← TimeSpan.contains_iff, Cleanup.window_contains]
  intro limit mishaps turns enough found last
  have enough : found.length ≤ cycles turns := by
    by_cases well : mishaps 0 query = none
    · simpa only [found, if_pos well] using enough
    · simp only [found, if_neg well, List.length_nil, Nat.zero_le]
  obtain ⟨notices, log, service, state⟩ := ask_expired limit mishaps now interval x s
  have first : ((start (Cleanup.start now interval) x s).ask limit mishaps).log.length = 1 := by
    rw [← List.length_map, log]
    rfl
  obtain ⟨calls, settled⟩ := run_settled limit mishaps
    (state ▸ Cleanup.decided_proceed found.length notices found) turns (by rwa [List.length_map])
  refine ⟨Cleanup.decided_nil_iff.mp settled, by rw [log] at calls; exact calls, ?_⟩
  intro id spares removed
  obtain ⟨gone, same⟩ := run_spared limit mishaps state enough spares
  rw [first] at gone same
  rw [service] at same
  exact ⟨gone, same⟩

/-! Of three events that have expired a client deletes the second, and the last one cannot be
deleted. -/

def StorageCall.encore : Event := { recital with id := "ω", title := "Encore" }

open StorageCall in
theorem rehearsal_removed :
    let now : Timestamp := { seconds := 31536000 }
    let s := (LocalService.new 5).serveAll (premiere ++ [.insert encore])
    let mishaps : Mishaps := fun n _ => if n = 3 then some .unanswered else none
    let turns : List Turn := [.client (.delete "é"), .cycle, .cycle, .cycle]
    let last := (start (Cleanup.start now (.ofSeconds 60)) .new s).run (.ofSeconds 1) mishaps
      (.cycle :: turns)
    s.events.Keyed Event.id ∧ 3 ≤ cycles turns ∧ last.state = .finished ∧
      last.log.map (·.1) = [.findByStartDate (Cleanup.window now (.ofSeconds 60)),
        .delete "z", .delete "é", .delete "ω"] ∧
      last.log[2]? = some ⟨.delete "é", .error (.notFound "é")⟩ ∧
      (∀ turn ∈ turns, turn.spares "z" ∧ turn.spares "ω") ∧
      last.service.events.find? "z" = none ∧ last.service.events.find? "ω" = some encore := by
  intro now s mishaps turns last
  have keyed : s.events.Keyed Event.id := LocalService.serveAll_keyed Collection.keyed_empty _
  have items : s.events.items = [rehearsal, recital, encore] := by cbv
  obtain ⟨expired, -, ordered, complete, removed⟩ :=
    expired_removed_once now (.ofSeconds 60) .new keyed
  have found : expired = [rehearsal, recital, encore] := by
    have inside : ∀ e ∈ [rehearsal, recital, encore],
        (retentionStart now).seconds ≤ e.startDate.seconds ∧ e.startDate.seconds <
          (retentionStart now).seconds + max 1 (min 60 9223372036854775807) := by decide
    apply Query.eq_of_ordered ordered (by decide)
    intro e
    rw [complete, EventStore.Holds, ← Collection.mem_items_iff keyed, items]
    exact and_iff_left_of_imp (inside e)
  subst found
  obtain ⟨finished, calls, store⟩ := removed (.ofSeconds 1) mishaps turns (by decide)
  have kept : ¬ Deletes mishaps 1 [rehearsal, recital, encore] "ω" := by
    simp only [deletes_cons_iff, not_deletes_nil, or_false]
    decide
  refine ⟨keyed, by decide, finished, calls, ?_, by decide, ?_, ?_⟩
  · unfold last
    cbv
  · exact (store "z" (by decide)).1 ⟨0, rehearsal, rfl, rfl, rfl⟩
  · exact ((store "ω" (by decide)).2 kept).trans (by cbv)

end Agenda
