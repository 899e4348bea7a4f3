import Mathlib
import Agenda.Proofs.Storage.Calls
import Agenda.Proofs.Storage.Relational

/-! The storage in memory and the one in a database cannot be told apart: as long as the database
runs the statements, every sequence of calls on empty storage is answered alike. -/
namespace Agenda

open Relational (Layout Row SameOutcome Table Value)

def RelationalStore.serve (s : RelationalStore) : StorageCall → StorageAnswer × RelationalStore
  | .insert e => let (a, s) := s.answer (.insert e); (.done a, s)
  | .save e => let (a, s) := s.answer (.save e); (.done a, s)
  | .delete id => let (a, s) := s.answer (.delete id); (.done a, s)
  | .findByStartDate span => let (a, s) := s.answer (.findByStartDate span); (.events a, s)
  | .findByRemindIn span => let (a, s) := s.answer (.findByRemindIn span); (.events a, s)
  | .record n => let (a, s) := s.answer (.record n); (.done a, s)
  | .notification id => (.notification (s.notification id), s)

/-- What a storage answers to calls that are made one after the other. -/
def StorageCall.replies {σ : Type} (serve : σ → StorageCall → StorageAnswer × σ) :
    σ → List StorageCall → List StorageAnswer
  | _, [] => []
  | s, c :: later => (serve s c).1 :: replies serve (serve s c).2 later

/-! ## Rows and fields -/

namespace Relational

def eventLayout : Layout Event := ⟨"id", Event.id, ofEvent, fun _ => rfl⟩

def notificationLayout : Layout Notification :=
  ⟨"event_id", Notification.eventId, ofNotification, fun _ => rfl⟩

theorem toEvent?_ofEvent (e : Event) : toEvent? (ofEvent e) = some e := rfl

/-- An update assigns every column but the key, so nothing of the old row is left. -/
theorem assign_ofEvent {e old : Event} (same : old.id = e.id) :
    Row.assign ((ofEvent e).drop 1) (ofEvent old) = ofEvent e := by
  have key : (("id", .text old.id) : String × Value) = ("id", .text e.id) := by rw [same]
  exact congrArg (· :: (ofEvent e).drop 1) key

theorem precedes_ofEvent {column : String} {key : Event → Timestamp}
    (reads : ∀ e, (ofEvent e).lookup column = some (.integer (key e))) (a b : Event) :
    precedes [column, "id"] (ofEvent a) (ofEvent b) = Query.precedes key a b := by
  have ids (e : Event) : (ofEvent e).lookup "id" = some (.text e.id) := rfl
  simp only [precedes, reads, ids, Option.some_inj, Value.integer.injEq, Value.text.injEq, Value.le,
    Query.precedes]
  by_cases at_once : key a = key b
  · by_cases same : a.id = b.id
    · simp [at_once, same]
    · have not_before : ¬ key b < key b := lt_irrefl (key b).seconds
      simp [at_once, same, not_before]
  · have : key a ≤ key b ↔ key a < key b := by
      rw [Timestamp.eq_iff] at at_once
      rw [Timestamp.le_iff, Timestamp.lt_iff]
      omega
    simp [at_once, this]

/-- The selected rows are the selected events. The rows may lie in any order, as no two events of
the collection come before each other. -/
theorem selectBetween_same {t : Table} {c : EventStore} (h : t.Holds eventLayout c)
    (hk : c.Keyed Event.id) {column : String} {key : Event → Timestamp}
    (reads : ∀ e, (ofEvent e).lookup column = some (.integer (key e))) (span : TimeSpan) :
    t.selectBetween column span.start span.stop [column, "id"] =
      (Query.select (span.contains <| key ·) key c.items).map ofEvent := by
  obtain ⟨stored, perm, rows⟩ := h
  have distinct : ((stored.filter fun e => span.contains (key e)).map Event.id).Nodup :=
    ((perm.map Event.id).nodup_iff.mpr (Collection.ids_nodup hk)).sublist
      (List.filter_sublist.map _)
  unfold Table.selectBetween
  rw [rows]
  change (List.filter _ (stored.map ofEvent)).mergeSort _ = _
  rw [List.filter_map]
  simp only [Function.comp_def, Row.integer?, reads]
  change ((stored.filter fun e => span.contains (key e)).map ofEvent).mergeSort _ = _
  rw [← List.map_mergeSort (fun a _ b _ => (precedes_ofEvent reads a b).symm),
    Query.sort_eq_of_perm (perm.filter _) distinct]
  rfl

end Relational

/-! ## Corresponding storages -/

open Relational

/-- The database holds what the memory holds. -/
structure Represents (r : RelationalStore) (m : LocalService) : Prop where
  working : r.broken = false
  events : r.events.Holds eventLayout m.events
  notifications : r.notifications.Holds notificationLayout m.notifications
  eventIds : m.events.Keyed Event.id
  notificationIds : m.notifications.Keyed Notification.eventId

namespace Represents

variable {r : RelationalStore} {m : LocalService}

theorem new (maxDeliver : Int) : Represents .new (.new maxDeliver) where
  working := rfl
  events := Table.holds_empty
  notifications := Table.holds_empty
  eventIds := Collection.keyed_empty
  notificationIds := Collection.keyed_empty

/-- A change of the events that comes to the same is answered alike. -/
theorem storing (h : Represents r m) {x : Except StorageError Table}
    {y : Except StorageError EventStore} (same : SameOutcome (Table.Holds eventLayout) x y)
    (keyed : ∀ d, y = .ok d → d.Keyed Event.id) :
    (m.storing y).1 = (r.storing (x.map ({ r with events := · }))).1 ∧
      Represents (r.storing (x.map ({ r with events := · }))).2 (m.storing y).2 := by
  cases same with
  | ok holds => exact ⟨rfl, { h with events := holds, eventIds := keyed _ rfl }⟩
  | error e => exact ⟨rfl, h⟩

/-- The same for the notifications. -/
theorem recording (h : Represents r m) {x : Except StorageError Table} {n : Notification}
    (same : SameOutcome (Table.Holds notificationLayout) x (m.notifications.record n))
    (keyed : ∀ d, m.notifications.record n = .ok d → d.Keyed Notification.eventId) :
    (m.answer .new (.record n)).1 = (r.storing (x.map ({ r with notifications := · }))).1 ∧
      Represents (r.storing (x.map ({ r with notifications := · }))).2
        (m.answer .new (.record n)).2.2 := by
  simp only [LocalService.answer]
  generalize m.notifications.record n = y at same keyed
  cases same with
  | ok holds => exact ⟨rfl, { h with notifications := holds, notificationIds := keyed _ rfl }⟩
  | error e => exact ⟨rfl, h⟩

/-- A change that was not refused had parameters that the database takes. -/
theorem accepted {parameters : List Value} {x : Except StorageError RelationalStore}
    (ran : (StorageAnswer.done (r.storing
      (if r.accepts parameters then x else .error RelationalStore.refusal)).1).isRefused = false) :
    r.accepts parameters = true := by
  by_cases taken : r.accepts parameters = true
  · exact taken
  · rw [if_neg taken] at ran
    cases ran

theorem insert (h : Represents r m) (e : Event)
    (ran : (r.serve (.insert e)).1.isRefused = false) :
    (m.serve (.insert e)).1 = (r.serve (.insert e)).1 ∧
      Represents (r.serve (.insert e)).2 (m.serve (.insert e)).2 := by
  have answered := h.storing (Table.insert_same h.eventIds h.events e)
    (fun _ hd => h.eventIds.insert hd)
  simp only [RelationalStore.serve, RelationalStore.answer, RelationalStore.insert, accepted ran,
    if_true]
  exact ⟨congrArg StorageAnswer.done answered.1, answered.2⟩

theorem save (h : Represents r m) (e : Event) (ran : (r.serve (.save e)).1.isRefused = false) :
    (m.serve (.save e)).1 = (r.serve (.save e)).1 ∧
      Represents (r.serve (.save e)).2 (m.serve (.save e)).2 := by
  have answered := h.storing
    (Table.save_same h.eventIds h.events e fun _ same => assign_ofEvent same)
    (fun _ hd => h.eventIds.save hd)
  simp only [RelationalStore.serve, RelationalStore.answer, RelationalStore.save, accepted ran,
    if_true]
  exact ⟨congrArg StorageAnswer.done answered.1, answered.2⟩

theorem delete (h : Represents r m) (id : String)
    (ran : (r.serve (.delete id)).1.isRefused = false) :
    (m.serve (.delete id)).1 = (r.serve (.delete id)).1 ∧
      Represents (r.serve (.delete id)).2 (m.serve (.delete id)).2 := by
  have answered := h.storing (Table.delete_same h.eventIds h.events id)
    (fun _ hd => h.eventIds.delete hd)
  simp only [RelationalStore.serve, RelationalStore.answer, RelationalStore.delete, accepted ran,
    if_true]
  exact ⟨congrArg StorageAnswer.done answered.1, answered.2⟩

theorem record (h : Represents r m) (n : Notification)
    (ran : (r.serve (.record n)).1.isRefused = false) :
    (m.serve (.record n)).1 = (r.serve (.record n)).1 ∧
      Represents (r.serve (.record n)).2 (m.serve (.record n)).2 := by
  have answered := h.recording (Table.insert_same h.notificationIds h.notifications n)
    (fun _ hd => h.notificationIds.insert hd)
  simp only [RelationalStore.serve, RelationalStore.answer, RelationalStore.record, accepted ran,
    if_true]
  exact ⟨congrArg StorageAnswer.done answered.1, answered.2⟩

/-- A query needs no text, so a database that works never refuses it. -/
theorem findBetween (h : Represents r m) {column : String} {key : Event → Timestamp}
    (reads : ∀ e, (ofEvent e).lookup column = some (.integer (key e))) (span : TimeSpan) :
    r.findBetween column span =
      Query.answer (Query.select (span.contains <| key ·) key m.events.items) := by
  have rows := selectBetween_same h.events h.eventIds reads span
  have decoded (l : List Event) : (l.map ofEvent).mapM toEvent? = some l := by
    induction l with
    | nil => rfl
    | cons e rest ih => simp [List.mapM_cons, toEvent?_ofEvent, ih]
  simp [RelationalStore.findBetween, RelationalStore.accepts, h.working, rows, decoded]

theorem notification (h : Represents r m) (id : String)
    (ran : (r.serve (.notification id)).1.isRefused = false) :
    m.notifications.get id = r.notification id := by
  by_cases accepted : r.accepts [.text id] = true
  · have found := Table.find?_same h.notificationIds h.notifications id
    change r.notifications.find? "event_id" (.text id) = _ at found
    simp only [RelationalStore.notification, accepted, if_true, found, Collection.get]
    cases m.notifications.find? id with
    | none => rfl
    | some n => rfl
  · simp [RelationalStore.serve, RelationalStore.notification, accepted, RelationalStore.refusal,
      StorageAnswer.isRefused] at ran

/-- One call: the same answer, and the storages go on holding the same. -/
theorem serve (h : Represents r m) (c : StorageCall) (ran : (r.serve c).1.isRefused = false) :
    (m.serve c).1 = (r.serve c).1 ∧ Represents (r.serve c).2 (m.serve c).2 := by
  cases c with
  | insert e => exact h.insert e ran
  | save e => exact h.save e ran
  | delete id => exact h.delete id ran
  | findByStartDate span =>
    exact ⟨congrArg StorageAnswer.events (h.findBetween (fun _ => rfl) span).symm, h⟩
  | findByRemindIn span =>
    exact ⟨congrArg StorageAnswer.events (h.findBetween (fun _ => rfl) span).symm, h⟩
  | record n => exact h.record n ran
  | notification id => exact ⟨congrArg StorageAnswer.notification (h.notification id ran), h⟩

theorem replies (h : Represents r m) (calls : List StorageCall)
    (ran : ∀ a ∈ StorageCall.replies RelationalStore.serve r calls, a.isRefused = false) :
    StorageCall.replies LocalService.serve m calls =
      StorageCall.replies RelationalStore.serve r calls := by
  induction calls generalizing r m with
  | nil => rfl
  | cons c later ih =>
    obtain ⟨same, next⟩ := h.serve c (ran _ (.head _))
    have rest := ih next fun a ha => ran a (.tail _ ha)
    simp only [StorageCall.replies, same, rest]

end Represents

/-- **The backends are interchangeable.** Calls on empty storage, in any number and order, are
answered alike by the memory and by a database that runs every statement: the same events in the
same order, the same notification, or the same error about the same id. -/
theorem backends_answer_alike (maxDeliver : Int) (calls : List StorageCall)
    (ran : ∀ a ∈ StorageCall.replies RelationalStore.serve .new calls, a.isRefused = false) :
    StorageCall.replies LocalService.serve (.new maxDeliver) calls =
      StorageCall.replies RelationalStore.serve .new calls :=
  (Represents.new maxDeliver).replies calls ran

/-- Two events of one instant, one of them moved and filed twice, and a notification. -/
def StorageCall.sample : List StorageCall :=
  let early : Event := ⟨"b", "", ⟨5, by decide, by decide⟩, .zero, "", "", .zero⟩
  let tied : Event := { early with id := "a" }
  let moved : Event := { tied with startDate := .zero }
  let span : TimeSpan := ⟨.zero, .greatest, by decide⟩
  let seen : Notification := .ofEvent early
  [.findByStartDate span, .insert early, .insert tied, .insert early, .findByStartDate span,
    .save moved, .findByStartDate span, .findByRemindIn span, .save { early with id := "c" },
    .delete "b", .delete "b", .record seen, .record seen, .notification "b", .notification "a"]

theorem backends_answer_sample_alike :
    (∀ a ∈ StorageCall.replies RelationalStore.serve .new StorageCall.sample,
      a.isRefused = false) ∧
      StorageCall.replies LocalService.serve (.new 5) StorageCall.sample =
        StorageCall.replies RelationalStore.serve .new StorageCall.sample := by
  have all_ran : (StorageCall.replies RelationalStore.serve .new StorageCall.sample).all
      (fun a => !a.isRefused) = true := by cbv
  have ran : ∀ a ∈ StorageCall.replies RelationalStore.serve .new StorageCall.sample,
      a.isRefused = false := by
    intro a ha
    simpa using List.all_eq_true.mp all_ran a ha
  exact ⟨ran, backends_answer_alike 5 _ ran⟩

end Agenda
