import Agenda.LocalService
import Agenda.Proofs.Broker.Queue
import Agenda.Proofs.Storage.Calls

/-! What one call changes of all that the parts of the service share. -/
namespace Agenda

namespace Call

/-- The answer of a call that fails, for whatever reason. -/
def failed (storage : StorageError) (broker : BrokerError) : (c : Call) → c.Answer
  | .insert _ | .save _ | .delete _ | .record _ | .findByStartDate _ | .findByRemindIn _ =>
    .error storage
  | .produce _ | .consume _ => .error broker

/-- A call that takes too long is one that fails. -/
theorem timedOut_eq_failed (after : Duration) (c : Call) : c.timedOut after =
    c.failed (.backend s!"The storage call timed out after {after.text}")
      (.backend s!"The broker call timed out after {after.text}") := by
  cases c <;> rfl

/-- How a call goes: well, not at all, or so late that the caller has given up when it is carried
out. -/
inductive Fortune
  | well
  | lost (storage : StorageError) (broker : BrokerError)
  | late (storage : StorageError) (broker : BrokerError)

end Call

namespace NotificationStore

/-- What comes of a notification that is filed: what is told, and the notifications afterwards. -/
inductive Filing (n : Notification) :
    NotificationStore → Except StorageError Unit → NotificationStore → Prop
  | stored {before after : NotificationStore} (vacant : before.find? n.eventId = none)
    (found : ∀ id,
      after.find? id = (before.find? id).or (if n.eventId = id then some n else none)) :
    Filing n before (.ok ()) after
  | known {store : NotificationStore} {m : Notification} (old : store.find? n.eventId = some m) :
    Filing n store (.error (.conflict n.eventId)) store

variable {n : Notification} {before after : NotificationStore} {result : Except StorageError Unit}

theorem Filing.told (h : Filing n before result after) :
    result = .ok () ∨ result = .error (.conflict n.eventId) := by
  cases h with
  | stored => exact .inl rfl
  | known => exact .inr rfl

/-- Of the notifications of one event the first stays. -/
theorem Filing.find? (h : Filing n before result after) (id : String) :
    after.find? id = (before.find? id).or (if n.eventId = id then some n else none) := by
  cases h with
  | stored _ found => exact found id
  | known old =>
    by_cases same : n.eventId = id
    · rw [← same, old, Option.some_or]
    · rw [if_neg same, Option.or_none]

end NotificationStore

namespace LocalService

variable (s : LocalService) (x : Endpoint)

/-- What is done to the events is done to nothing else. -/
theorem storing_events (result : Except StorageError EventStore) :
    ∃ events, (s.storing result).2 = { s with events } := by
  cases result with
  | ok events => exact ⟨events, rfl⟩
  | error e => exact ⟨s.events, rfl⟩

theorem storing_broker (result : Except StorageError EventStore) :
    (s.storing result).2.broker = s.broker := by
  obtain ⟨events, after⟩ := s.storing_events result
  rw [after]

/-- Consumers and their streams leave everything alone but the bell, as long as nobody looks. -/
theorem dropStream_broker (x : Endpoint) :
    ∃ broker, broker.queue = s.broker.queue ∧ (s.dropStream x).2 = { s with broker } := by
  unfold dropStream
  cases x.stream with
  | none => exact ⟨s.broker, rfl, rfl⟩
  | some stream => exact ⟨s.broker.drop stream, rfl, rfl⟩

theorem consume_broker (x : Endpoint) (call : ConsumerCall) :
    ∃ broker, broker.queue = s.broker.queue ∧ (s.consume x call).2.2 = { s with broker } := by
  cases call with
  | openChannel | closeChannel | closeConnection => exact ⟨s.broker, rfl, rfl⟩
  | beginConsume =>
    simp only [consume, LocalConsumer.beginConsume]
    split
    · rename_i consumer broker began
      split at began
      · cases began
      · split at began <;> cases began
        exact ⟨{ s.broker with nextStream := s.broker.nextStream + 1 }, rfl, rfl⟩
    · exact ⟨s.broker, rfl, rfl⟩
  | receive =>
    simp only [consume]
    split
    · exact s.dropStream_broker x
    · exact ⟨s.broker, rfl, rfl⟩

/-- A look into the queue takes a message or leaves it alone. -/
theorem poll_broker (x : Endpoint) :
    ∃ broker, (s.poll x).2.2 = { s with broker } ∧
      ((s.poll x).1 = none ∧ broker.queue = s.broker.queue ∨
        ∃ t, s.broker.queue.take = some t ∧ (s.poll x).1 = some t.item ∧
          broker.queue = t.queue) := by
  unfold poll
  cases x.stream with
  | none => exact ⟨s.broker, rfl, .inl ⟨rfl, rfl⟩⟩
  | some stream =>
    rcases s.broker.poll_cases stream with ⟨nothing, same, -⟩ | ⟨-, t, taken, item, queue⟩
    · exact ⟨_, rfl, .inl ⟨nothing, same⟩⟩
    · exact ⟨_, rfl, .inr ⟨t, taken, item, queue⟩⟩

/-- Only a publication gets to the broker past its consumers. -/
theorem produce_broker (call : ProducerCall) :
    (s.produce x call).2.2 = s ∨ ∃ payload, call = .publish payload ∧
      (s.produce x call).2.2 = { s with broker := s.broker.publish payload } := by
  cases call with
  | openChannel | closeChannel | closeConnection => exact .inl rfl
  | publish payload =>
    simp only [produce, LocalProducer.publish]
    split
    · rename_i broker published
      split at published <;> cases published
      exact .inr ⟨payload, rfl, rfl⟩
    · exact .inl rfl

variable {x} in
theorem answer_publish (isOpen : x.producer.isOpen = true) (payload : Bytes) :
    s.answer x (.produce (.publish payload)) =
      (.ok (), x, { s with broker := s.broker.publish payload }) := by
  simp only [answer, produce, LocalProducer.publish, isOpen, if_true]

variable {x} in
theorem answer_publish_closed (closed : x.producer.isOpen = false) (payload : Bytes) :
    s.answer x (.produce (.publish payload)) = (.error .channelNotOpen, x, s) := by
  simp only [answer, produce, LocalProducer.publish, closed, Bool.false_eq_true, if_false]

/-- The first notification of an event is filed, and later ones change nothing. -/
theorem answer_filing (n : Notification) : ∃ notifications,
    (s.answer x (.record n)).2 = (x, { s with notifications }) ∧
      NotificationStore.Filing n s.notifications (s.answer x (.record n)).1 notifications := by
  cases found : s.notifications.find? n.eventId with
  | none =>
    obtain ⟨notifications, stored⟩ := Collection.insert_vacant found n
    refine ⟨notifications, ?_, ?_⟩
    · simp only [answer, NotificationStore.record, stored]
    · simp only [answer, NotificationStore.record, stored]
      refine .stored found ?_
      intro id
      rw [Collection.find?_insert stored]
      by_cases same : id = n.eventId
      · rw [if_pos same, if_pos same.symm, same, found, Option.none_or]
      · rw [if_neg same, if_neg (Ne.symm same), Option.or_none]
  | some m =>
    have taken := Collection.insert_taken (x := n) found
    refine ⟨s.notifications, ?_, ?_⟩
    · simp only [answer, NotificationStore.record, taken]
    · simp only [answer, NotificationStore.record, taken]
      exact .known found

/-- Of the notifications of one event the first stays, and whoever comes later is told so. -/
theorem answer_record (n : Notification) : ∃ notifications,
    (s.answer x (.record n)).2 = (x, { s with notifications }) ∧
    ((s.answer x (.record n)).1 = .ok () ∨
      (s.answer x (.record n)).1 = .error (.conflict n.eventId)) ∧
    ∀ id, notifications.find? id =
      (s.notifications.find? id).or (if n.eventId = id then some n else none) := by
  obtain ⟨notifications, after, filing⟩ := s.answer_filing x n
  exact ⟨notifications, after, filing.told, filing.find?⟩

/-- Clients of the storage have nothing to do with the broker. -/
theorem serve_broker (c : StorageCall) : (s.serve c).2.broker = s.broker := by
  cases c with
  | insert | save | delete => exact s.storing_broker _
  | findByStartDate | findByRemindIn | notification => rfl
  | record n =>
    obtain ⟨notifications, after, -⟩ := s.answer_filing .new n
    exact congrArg (·.2.broker) after

/-! ## Calls that fail -/

/-- Makes a call that goes one way or the other. -/
def attempt (fortune : Call.Fortune) (s : LocalService) (x : Endpoint) (c : Call) :
    c.Answer × Endpoint × LocalService :=
  match fortune with
  | .well => s.answer x c
  | .lost storage broker => (c.failed storage broker, x, s)
  | .late storage broker => (c.failed storage broker, (s.answer x c).2)

/-- However a call goes, either nothing has happened or what had to happen. -/
theorem attempt_state (fortune : Call.Fortune) (c : Call) :
    (attempt fortune s x c).2 = (x, s) ∨ (attempt fortune s x c).2 = (s.answer x c).2 := by
  cases fortune with
  | well | late => exact .inr rfl
  | lost => exact .inl rfl

/-- The caller is told what happened, or that the call failed. -/
theorem attempt_told (fortune : Call.Fortune) (c : Call) :
    (attempt fortune s x c).1 = (s.answer x c).1 ∨
      ∃ storage broker, (attempt fortune s x c).1 = c.failed storage broker := by
  cases fortune with
  | well => exact .inl rfl
  | lost storage broker | late storage broker => exact .inr ⟨storage, broker, rfl⟩

/-- What is stored after a call was stored before, or the call has filed it under its id. -/
theorem serve_stores {c : StorageCall} {id : String} {e : Event}
    (stored : (s.serve c).2.events.find? id = some e) :
    s.events.find? id = some e ∨ e.id = id ∧ c.filing? = some e := by
  rcases s.serve_cases c with ⟨d, filing, -, after⟩ | ⟨gone, -, after⟩ | ⟨same, -⟩
  · rw [after] at stored
    split at stored
    · cases stored
      exact .inr ⟨Eq.symm ‹_›, filing⟩
    · exact .inl stored
  · rw [after] at stored
    split at stored
    · cases stored
    · exact .inl stored
  · exact .inl (same ▸ stored)

theorem answer_stores {c : Call} {id : String} {e : Event}
    (stored : (s.answer x c).2.2.events.find? id = some e) :
    s.events.find? id = some e ∨ e.id = id ∧ (c = .insert e ∨ c = .save e) := by
  cases c with
  | insert d =>
    refine (s.serve_stores (c := .insert d) stored).imp_right (And.imp_right ?_)
    intro filing
    exact .inl (congrArg Call.insert (Option.some.inj filing))
  | save d =>
    refine (s.serve_stores (c := .save d) stored).imp_right (And.imp_right ?_)
    intro filing
    exact .inr (congrArg Call.save (Option.some.inj filing))
  | delete gone =>
    refine (s.serve_stores (c := .delete gone) stored).imp_right (And.imp_right ?_)
    intro filing
    cases filing
  | findByStartDate | findByRemindIn => exact .inl stored
  | record n =>
    obtain ⟨notifications, after, -⟩ := s.answer_filing x n
    rw [after] at stored
    exact .inl stored
  | produce call =>
    rcases s.produce_broker x call with same | ⟨payload, -, published⟩
    · simp only [answer, same] at stored
      exact .inl stored
    · simp only [answer, published] at stored
      exact .inl stored
  | consume call =>
    obtain ⟨broker, -, after⟩ := s.consume_broker x call
    simp only [answer, after] at stored
    exact .inl stored

theorem attempt_stores {fortune : Call.Fortune} {c : Call} {id : String} {e : Event}
    (stored : (attempt fortune s x c).2.2.events.find? id = some e) :
    s.events.find? id = some e ∨ e.id = id ∧ (c = .insert e ∨ c = .save e) := by
  rcases attempt_state s x fortune c with same | carriedOut
  · rw [same] at stored
    exact .inl stored
  · rw [carriedOut] at stored
    exact s.answer_stores x stored

/-! ## Ids -/

/-- Whatever is called, events and notifications stay filed under their own ids. -/
structure Keyed : Prop where
  events : s.events.Keyed Event.id
  notifications : s.notifications.Keyed Notification.eventId

variable {s}

theorem Keyed.storing (h : s.Keyed) {result : Except StorageError EventStore}
    (events : (s.storing result).2.events.Keyed Event.id) : (s.storing result).2.Keyed := by
  obtain ⟨_, after⟩ := s.storing_events result
  exact ⟨events, after.symm ▸ h.notifications⟩

theorem Keyed.answer (h : s.Keyed) (c : Call) : (s.answer x c).2.2.Keyed := by
  cases c with
  | insert e => exact h.storing (s.serve_keyed (.insert e) h.events)
  | save e => exact h.storing (s.serve_keyed (.save e) h.events)
  | delete id => exact h.storing (s.serve_keyed (.delete id) h.events)
  | findByStartDate | findByRemindIn => exact h
  | record n =>
    obtain ⟨notifications, after, -, found⟩ := s.answer_record x n
    rw [after]
    refine ⟨h.events, ?_⟩
    intro id m stored
    rw [found, Option.or_eq_some_iff] at stored
    rcases stored with old | ⟨-, new⟩
    · exact h.notifications id m old
    · split at new <;> cases new
      assumption
  | produce call =>
    rcases s.produce_broker x call with same | ⟨payload, -, published⟩
    · exact same.symm ▸ h
    · exact published.symm ▸ ⟨h.events, h.notifications⟩
  | consume call =>
    obtain ⟨broker, -, after⟩ := s.consume_broker x call
    exact after.symm ▸ ⟨h.events, h.notifications⟩

end LocalService
end Agenda
