import Agenda.Proofs.Storage.History
import Agenda.Proofs.Storage.Query
import Agenda.Proofs.Text.Order

/-! Range queries over the events in memory: there is one right answer to each, and it depends on
nothing but what is stored. -/
namespace Agenda

/-- The event is filed under its id as it is. -/
def EventStore.Holds (s : EventStore) (e : Event) : Prop := s.find? e.id = some e

namespace Query

/-- Comes before: by the instant, and at one instant by the bytes of the id. -/
def Before (key : Event → Timestamp) (a b : Event) : Prop :=
  key a < key b ∨ key a = key b ∧ Text.bytes a.id < Text.bytes b.id

instance (key : Event → Timestamp) (a b : Event) : Decidable (Before key a b) :=
  inferInstanceAs (Decidable ((key a).seconds < (key b).seconds ∨
    key a = key b ∧ Text.bytes a.id < Text.bytes b.id))

/-- The right answer to a query over the events that are there: all with the instant in the span,
each once, in order, or that there is none. -/
inductive Exact (key : Event → Timestamp) (span : TimeSpan) (There : Event → Prop) :
    Except StorageError (List Event) → Prop
  | found {events : List Event} (some : events ≠ []) (once : events.Nodup)
    (ordered : events.Pairwise (Before key))
    (complete : ∀ e, e ∈ events ↔ There e ∧ span.start ≤ key e ∧ key e ≤ span.stop) :
    Exact key span There (.ok events)
  | empty (none : ∀ e, There e → ¬ (span.start ≤ key e ∧ key e ≤ span.stop)) :
    Exact key span There (.error .empty)

variable {key : Event → Timestamp} {span : TimeSpan} {There : Event → Prop}

theorem before_of_precedes {a b : Event} (precedes : precedes key a b = true)
    (apart : a.id ≠ b.id) : Before key a b := by
  rcases precedes_iff.mp precedes with earlier | ⟨same, ids⟩
  · exact .inl earlier
  · exact .inr ⟨Timestamp.eq_iff.mpr same, Text.bytes_lt_iff.mpr (lt_of_le_of_ne ids apart)⟩

theorem Before.irrefl (key : Event → Timestamp) (a : Event) : ¬ Before key a a := by
  rintro (earlier | ⟨-, ids⟩)
  · exact Int.lt_irrefl _ earlier
  · exact List.lt_irrefl _ ids

theorem Before.asymm {a b : Event} (before : Before key a b) : ¬ Before key b a := by
  rintro (later | ⟨same, ids⟩) <;> rcases before with earlier | ⟨same', ids'⟩
  · exact Int.lt_asymm earlier later
  · rw [same'] at later
    exact Int.lt_irrefl _ later
  · rw [same] at earlier
    exact Int.lt_irrefl _ earlier
  · exact List.lt_asymm ids ids'

/-- Events are put in order in one way only. -/
theorem eq_of_ordered {events other : List Event} (ordered : events.Pairwise (Before key))
    (ordered' : other.Pairwise (Before key)) (same : ∀ e, e ∈ events ↔ e ∈ other) :
    events = other := by
  have : Std.Irrefl (Before key) := ⟨Before.irrefl key⟩
  have : Std.Antisymm (Before key) := ⟨fun a b before after => absurd after before.asymm⟩
  exact ordered.eq_of_mem_iff ordered' same

/-- Two right answers are the same. -/
theorem Exact.unique {a b : Except StorageError (List Event)} (here : Exact key span There a)
    (there : Exact key span There b) : a = b := by
  cases here with
  | found some once ordered complete =>
    cases there with
    | found _ _ ordered' complete' =>
      congr 1
      exact eq_of_ordered ordered ordered' fun e => (complete e).trans (complete' e).symm
    | empty none =>
      obtain ⟨e, member⟩ := List.exists_mem_of_ne_nil _ some
      obtain ⟨holds, inside⟩ := (complete e).mp member
      exact absurd inside (none e holds)
  | empty none =>
    cases there with
    | found some _ _ complete =>
      obtain ⟨e, member⟩ := List.exists_mem_of_ne_nil _ some
      obtain ⟨holds, inside⟩ := (complete e).mp member
      exact absurd inside (none e holds)
    | empty _ => rfl

/-- What is there with its instant outside the span makes no difference. -/
theorem Exact.within {Also : Event → Prop} {a : Except StorageError (List Event)}
    (h : Exact key span There a)
    (same : ∀ e, span.start ≤ key e ∧ key e ≤ span.stop → (Also e ↔ There e)) :
    Exact key span Also a := by
  cases h with
  | found some once ordered complete =>
    refine .found some once ordered fun e => ?_
    rw [complete, and_congr_left (same e)]
  | empty none => exact .empty fun e also inside => none e ((same e inside).mp also) inside

theorem Exact.congr {Also : Event → Prop} {a : Except StorageError (List Event)}
    (h : Exact key span There a) (same : ∀ e, Also e ↔ There e) : Exact key span Also a :=
  h.within fun e _ => same e

/-- What a query has to select of the events that are there. -/
structure Selects (key : Event → Timestamp) (span : TimeSpan) (There : Event → Prop)
    (events : List Event) : Prop where
  once : events.Nodup
  ordered : events.Pairwise (Before key)
  complete : ∀ e, e ∈ events ↔ There e ∧ span.start ≤ key e ∧ key e ≤ span.stop

theorem Selects.exact {events : List Event} (h : Selects key span There events) :
    Exact key span There (answer events) := by
  by_cases none : events = []
  · rw [answer_eq_error.mpr ⟨rfl, none⟩]
    refine .empty fun e holds inside => ?_
    have selected := (h.complete e).mpr ⟨holds, inside⟩
    rw [none] at selected
    cases selected
  · rw [answer_eq_ok.mpr ⟨rfl, none⟩]
    exact .found none h.once h.ordered h.complete

/-- A query selects rightly from any list of events with different ids, whatever its order. -/
theorem selects_select {events : List Event} (distinct : (events.map Event.id).Nodup) :
    Selects key span (· ∈ events) (select (span.contains <| key ·) key events) := by
  have ids : ((select (span.contains <| key ·) key events).map Event.id).Nodup := by
    have perm := (List.mergeSort_perm (events.filter fun e => span.contains (key e))
      (precedes key)).map Event.id
    exact perm.nodup_iff.mpr ((List.filter_sublist.map Event.id).nodup distinct)
  have apart := List.pairwise_map.mp (List.nodup_iff_pairwise_ne.mp ids)
  refine ⟨ids.of_map, ?_, ?_⟩
  · have sorted := select_sorted (span.contains <| key ·) key events
    exact sorted.imp₂ (fun _ _ => before_of_precedes) apart
  · intro e
    rw [mem_select, TimeSpan.contains_iff]

end Query

open Query

namespace EventStore

variable {store : EventStore} {key : Event → Timestamp} {span : TimeSpan}

/-- Whoever lists events of a store lists each id once. -/
theorem listing_ids {listing : List Event} (once : listing.Nodup)
    (stored : ∀ e ∈ listing, store.Holds e) : (listing.map Event.id).Nodup := by
  apply once.map_on
  intro a ha b hb same
  have here := stored a ha
  have there := stored b hb
  unfold Holds at here there
  rw [same, there] at here
  exact (Option.some.inj here).symm

/-- The answer to a query does not depend on the order in which the events are listed. -/
theorem exact_listing {listing : List Event} (once : listing.Nodup)
    (all : ∀ e, e ∈ listing ↔ store.Holds e) :
    Exact key span store.Holds (answer (select (span.contains <| key ·) key listing)) :=
  (selects_select (listing_ids once fun e => (all e).mp)).exact.congr fun e => (all e).symm

theorem selects_items (keyed : store.Keyed Event.id) :
    Selects key span store.Holds (select (span.contains <| key ·) key store.items) := by
  have selects : Selects key span (· ∈ store.items) _ :=
    selects_select (Collection.ids_nodup keyed)
  obtain ⟨once, ordered, complete⟩ := selects
  refine ⟨once, ordered, fun e => ?_⟩
  rw [complete, Collection.mem_items_iff keyed, Holds]

theorem exact_items (keyed : store.Keyed Event.id) :
    Exact key span store.Holds (answer (select (span.contains <| key ·) key store.items)) :=
  (selects_items keyed).exact

end EventStore

theorem LocalService.serveAll_keyed {s : LocalService} (keyed : s.events.Keyed Event.id)
    (calls : List StorageCall) : (s.serveAll calls).events.Keyed Event.id := by
  induction calls generalizing s with
  | nil => exact keyed
  | cons c later ih => exact ih (s.serve_keyed c keyed)

/-- **Range queries are exact and canonical.** After any calls on an empty storage, a query gives
all stored events with the instant in the span, both ends included, each once and as it is, strictly
in the order of instants and of the bytes of ids, and it fails only if there is none. It makes no
difference in which order the stored events are listed before they are selected and sorted, nor by
which calls they came to be stored. -/
theorem range_queries_exact (maxDeliver : Int) (calls : List StorageCall) (span : TimeSpan) :
    let store := ((LocalService.new maxDeliver).serveAll calls).events
    Exact (·.startDate) span store.Holds (store.findByStartDate span) ∧
    Exact (·.remindIn) span store.Holds (store.findByRemindIn span) ∧
    (∀ listing : List Event, listing.Nodup → (∀ e, e ∈ listing ↔ store.Holds e) →
      answer (select (·.startsWithin span) (·.startDate) listing) = store.findByStartDate span ∧
      answer (select (·.remindsWithin span) (·.remindIn) listing) = store.findByRemindIn span) ∧
    ∀ (bound : Int) (others : List StorageCall),
      let other := ((LocalService.new bound).serveAll others).events
      (∀ e, other.Holds e ↔ store.Holds e) →
        other.findByStartDate span = store.findByStartDate span ∧
        other.findByRemindIn span = store.findByRemindIn span := by
  have exact_at (bound : Int) (calls : List StorageCall) (key : Event → Timestamp) :
      let store := ((LocalService.new bound).serveAll calls).events
      Exact key span store.Holds (answer (select (span.contains <| key ·) key store.items)) :=
    EventStore.exact_items (LocalService.serveAll_keyed Collection.keyed_empty calls)
  intro store
  have by_start := exact_at maxDeliver calls (·.startDate)
  have by_reminder := exact_at maxDeliver calls (·.remindIn)
  refine ⟨by_start, by_reminder, ?_, ?_⟩
  · intro listing once all
    exact ⟨(EventStore.exact_listing once all).unique by_start,
      (EventStore.exact_listing once all).unique by_reminder⟩
  · intro bound others other same
    have swap (e : Event) : store.Holds e ↔ other.Holds e := (same e).symm
    exact ⟨((exact_at bound others (·.startDate)).congr swap).unique by_start,
      ((exact_at bound others (·.remindIn)).congr swap).unique by_reminder⟩

/-! Two events that start at the same time, filed in one order and then in the other. -/

def StorageCall.recital : Event := ⟨"é", "Recital", .zero, .zero, "", "ann", .zero⟩

def StorageCall.rehearsal : Event := { recital with id := "z", title := "Rehearsal" }

def StorageCall.premiere : List StorageCall :=
  [.insert { recital with title := "Concert" }, .insert rehearsal, .save recital]

def StorageCall.repeated : List StorageCall :=
  [.insert rehearsal, .delete "z", .insert recital, .insert rehearsal]

open StorageCall in
theorem rehearsal_before_recital :
    let store := ((LocalService.new 5).serveAll premiere).events
    let other := ((LocalService.new 5).serveAll repeated).events
    [recital, rehearsal].Nodup ∧ (∀ e, e ∈ [recital, rehearsal] ↔ store.Holds e) ∧
      store.findByStartDate ⟨.zero, .zero, by decide⟩ = .ok [rehearsal, recital] ∧
      other.findByStartDate ⟨.zero, .zero, by decide⟩ = .ok [rehearsal, recital] := by
  intro store other
  have keyed (calls : List StorageCall) :
      ((LocalService.new 5).serveAll calls).events.Keyed Event.id :=
    LocalService.serveAll_keyed Collection.keyed_empty calls
  have items : store.items = [rehearsal, recital] := by cbv
  have items' : other.items = [rehearsal, recital] := by cbv
  have all (e : Event) : e ∈ [recital, rehearsal] ↔ store.Holds e := by
    rw [EventStore.Holds, ← Collection.mem_items_iff (keyed premiere), items]
    exact (List.Perm.swap _ _ _).mem_iff
  have same (e : Event) : other.Holds e ↔ store.Holds e := by
    rw [EventStore.Holds, EventStore.Holds, ← Collection.mem_items_iff (keyed premiere),
      ← Collection.mem_items_iff (keyed repeated), items, items']
  obtain ⟨-, -, listed, reached⟩ := range_queries_exact 5 premiere ⟨.zero, .zero, by decide⟩
  have answered : store.findByStartDate ⟨.zero, .zero, by decide⟩ = .ok [rehearsal, recital] := by
    rw [← (listed [recital, rehearsal] (by decide) all).1]
    cbv
  exact ⟨by decide, all, answered, (reached 5 repeated same).1.trans answered⟩

end Agenda
