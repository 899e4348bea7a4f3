import Mathlib
import Agenda.Dispatch
import Agenda.Proofs.Service
import Agenda.Proofs.Storage.Query
import Agenda.Proofs.Wire
import Agenda.Sender

/-! A dispatched reminder arrives: a cycle that nothing disturbs puts it into the queue, and the
sender empties the queue, whatever else was in it. -/
namespace Agenda

/-! ## The one listener -/

/-- Of the streams only that of the endpoint may sleep, and it does so only over an empty queue. -/
def LocalBroker.Attended (x : Endpoint) (b : LocalBroker) : Prop :=
  b.bell.asleep = [] ∨
    ∃ stream, x.stream = some stream ∧ b.bell.asleep = [stream] ∧ b.queue.messages = []

namespace LocalBroker

variable {b : LocalBroker} {x : Endpoint} {stream : Nat}

theorem Attended.ring (h : b.Attended x) : b.bell.ring.asleep = [] := by
  rcases h with awake | ⟨stream, -, asleep, -⟩
  · simp only [Bell.ring, awake]
  · simp only [Bell.ring, asleep]

theorem Attended.withStream (h : b.Attended x) {y : Endpoint} (same : y.stream = x.stream) :
    b.Attended y := by
  unfold Attended
  rw [same]
  exact h

theorem Attended.publish (h : b.Attended x) (payload : Bytes) (y : Endpoint) :
    (b.publish payload).Attended y :=
  .inl h.ring

/-- Whoever gives up the stream leaves nobody asleep. -/
theorem Attended.drop (h : b.Attended x) (taken : x.stream = some stream) :
    (b.drop stream).bell.asleep = [] := by
  simp only [LocalBroker.drop, Bell.leave]
  split
  · rcases h with awake | ⟨_, -, asleep, -⟩
    · simp only [Bell.ring, Bell.rise, awake]
    · simp only [Bell.ring, Bell.rise, asleep]
  · rcases h with awake | ⟨other, same, asleep, -⟩
    · simp only [awake, List.erase_nil]
    · rw [taken] at same
      cases same
      simp only [asleep, List.erase_cons_head]

theorem Attended.poll (h : b.Attended x) (taken : x.stream = some stream) :
    (b.poll stream).broker.Attended x := by
  unfold LocalBroker.poll
  by_cases asleep : stream ∈ b.bell.asleep
  · rw [if_pos asleep]
    exact h
  · rw [if_neg asleep]
    have awake : b.bell.asleep = [] := by
      rcases h with awake | ⟨other, same, sleeping, -⟩
      · exact awake
      · rw [taken] at same
        cases same
        exact absurd (sleeping ▸ List.mem_singleton_self stream) asleep
    cases next : b.queue.take with
    | none =>
      refine .inr ⟨stream, taken, ?_, Queue.take_eq_none_iff.mp next⟩
      simp only [Bell.sleep, Bell.rise, awake, List.nil_append]
    | some t =>
      left
      simp only [Bell.rise]
      split
      · simp only [Bell.ring, awake]
      · exact awake

/-- The listener is not kept waiting. -/
theorem Attended.takes (h : b.Attended x) (stream : Nat) :
    ((b.poll stream).item = none ∧ b.queue.messages = [] ∧
      (b.poll stream).broker.queue = b.queue) ∨
    ∃ t, b.queue.take = some t ∧ (b.poll stream).item = some t.item ∧
      (b.poll stream).broker.queue = t.queue := by
  rcases b.poll_cases stream with ⟨nothing, same, asleep | empty⟩ | ⟨-, t, next, item, queue⟩
  · rcases h with awake | ⟨-, -, -, empty⟩
    · rw [awake] at asleep
      cases asleep
    · exact .inl ⟨nothing, empty, same⟩
  · exact .inl ⟨nothing, empty, same⟩
  · exact .inr ⟨t, next, item, queue⟩

end LocalBroker

namespace LocalService

variable {s : LocalService} {x : Endpoint}

theorem dropStream_awake (h : s.broker.Attended x) :
    (s.dropStream x).2.broker.bell.asleep = [] := by
  unfold dropStream
  cases taken : x.stream with
  | none =>
    rcases h with awake | ⟨stream, some_stream, -⟩
    · exact awake
    · rw [taken] at some_stream
      cases some_stream
  | some stream => exact h.drop taken

theorem attended_produce (h : s.broker.Attended x) (y : Endpoint) (call : ProducerCall) :
    (s.produce y call).2.2.broker.Attended x := by
  rcases s.produce_broker y call with same | ⟨payload, -, published⟩
  · rw [same]
    exact h
  · rw [published]
    exact h.publish payload x

theorem produce_stream (call : ProducerCall) : (s.produce x call).2.1.stream = x.stream := by
  cases call with
  | openChannel | closeChannel | closeConnection => rfl
  | publish payload =>
    simp only [produce]
    split <;> rfl

theorem attended_consume (h : s.broker.Attended x) (call : ConsumerCall) :
    (s.consume x call).2.2.broker.Attended (s.consume x call).2.1 := by
  cases call with
  | openChannel | closeChannel | closeConnection => exact h.withStream rfl
  | beginConsume =>
    simp only [consume, LocalConsumer.beginConsume]
    split
    · rename_i consumer broker began
      split at began
      · cases began
      · split at began <;> cases began
        exact h.withStream rfl
    · exact h
  | receive =>
    simp only [consume]
    split
    · exact .inl (dropStream_awake h)
    · exact h

theorem attended_storing (h : s.broker.Attended x) (result : Except StorageError EventStore) :
    (s.storing result).2.broker.Attended x := by
  obtain ⟨events, after⟩ := s.storing_events result
  rw [after]
  exact h

/-- A call of anybody but a consumer. -/
theorem attended_other (h : s.broker.Attended x) (y : Endpoint) {c : Call}
    (other : ∀ call, c ≠ .consume call) : (s.answer y c).2.2.broker.Attended x := by
  cases c with
  | insert | save | delete => exact attended_storing h _
  | findByStartDate | findByRemindIn => exact h
  | record n =>
    obtain ⟨notifications, after, -⟩ := s.answer_record y n
    rw [after]
    exact h
  | produce call => exact attended_produce h y call
  | consume call => exact absurd rfl (other call)

theorem answer_stream {c : Call} (other : ∀ call, c ≠ .consume call) :
    (s.answer x c).2.1.stream = x.stream := by
  cases c with
  | insert | save | delete | findByStartDate | findByRemindIn => rfl
  | record n =>
    obtain ⟨notifications, after, -⟩ := s.answer_record x n
    rw [after]
  | produce call => exact produce_stream call
  | consume call => exact absurd rfl (other call)

theorem attended_own (h : s.broker.Attended x) (c : Call) :
    (s.answer x c).2.2.broker.Attended (s.answer x c).2.1 := by
  by_cases consuming : ∃ call, c = .consume call
  · obtain ⟨call, rfl⟩ := consuming
    exact attended_consume h call
  · have other : ∀ call, c ≠ .consume call := fun call same => consuming ⟨call, same⟩
    exact (attended_other h x other).withStream (answer_stream other)

end LocalService

/-- What the service in memory can come to while one endpoint is the only one that consumes: its
owner calls, looks into its stream or gives it up, and all others call as they like. -/
inductive Reached : Endpoint → LocalService → Prop
  | new (maxDeliver : Int) : Reached .new (.new maxDeliver)
  | own {x : Endpoint} {s : LocalService} (c : Call) :
      Reached x s → Reached (s.answer x c).2.1 (s.answer x c).2.2
  | other {x : Endpoint} {s : LocalService} (y : Endpoint) (c : Call) :
      (∀ call, c ≠ .consume call) → Reached x s → Reached x (s.answer y c).2.2
  | poll {x : Endpoint} {s : LocalService} : Reached x s → Reached x (s.poll x).2.2
  | drop {x : Endpoint} {s : LocalService} :
      Reached x s → Reached (s.dropStream x).1 (s.dropStream x).2

namespace Reached

variable {x : Endpoint} {s : LocalService}

theorem keyed (h : Reached x s) : s.Keyed := by
  induction h with
  | new maxDeliver => exact ⟨Collection.keyed_empty, Collection.keyed_empty⟩
  | own c _ ih => exact ih.answer _ c
  | other y c _ _ ih => exact ih.answer y c
  | @poll x s _ ih =>
    obtain ⟨broker, after, -⟩ := s.poll_broker x
    exact after.symm ▸ ⟨ih.events, ih.notifications⟩
  | @drop x s _ ih =>
    obtain ⟨broker, -, after⟩ := s.dropStream_broker x
    exact after.symm ▸ ⟨ih.events, ih.notifications⟩

theorem attended (h : Reached x s) : s.broker.Attended x := by
  induction h with
  | new maxDeliver => exact .inl rfl
  | own c _ ih => exact LocalService.attended_own ih c
  | other y c other _ ih => exact LocalService.attended_other ih y other
  | @poll x s _ ih =>
    unfold LocalService.poll
    cases taken : x.stream with
    | none => exact ih
    | some stream => exact ih.poll taken
  | drop _ ih => exact .inl (LocalService.dropStream_awake ih)

end Reached

/-! ## At work alone -/

/-- A part of the service that nobody disturbs and whose calls are all carried out. -/
structure Work (σ : Type) where
  state : σ
  endpoint : Endpoint
  service : LocalService

namespace Work

variable {σ : Type} [Machine σ]

/-- The next call, or the next look into the stream. -/
def step (w : Work σ) : Work σ :=
  match Machine.move w.state with
  | .halt => w
  | .ask c next =>
    let (a, endpoint, service) := w.service.answer w.endpoint c
    ⟨(next a).1, endpoint, service⟩
  | .listen next => match w.service.poll w.endpoint with
    | (none, _, service) => { w with service }
    | (some item, _, service) => { w with state := (next (.delivery item)).1, service }

/-- It gets there in finitely many steps. -/
def Leads (v w : Work σ) : Prop := ∃ n, step^[n] v = w

theorem Leads.refl (w : Work σ) : Leads w w := ⟨0, rfl⟩

theorem Leads.trans {u v w : Work σ} (h : Leads u v) (h' : Leads v w) : Leads u w := by
  obtain ⟨n, rfl⟩ := h
  obtain ⟨m, rfl⟩ := h'
  exact ⟨m + n, Function.iterate_add_apply step m n u⟩

theorem Leads.step {v w : Work σ} (h : Leads v.step w) : Leads v w := by
  obtain ⟨n, rfl⟩ := h
  exact ⟨n + 1, Function.iterate_succ_apply Work.step n v⟩

end Work

/-! ## The cycle -/

namespace Dispatch

variable {x y : Endpoint} {s : LocalService}

/-- The message of an event. -/
def message (e : Event) : Delivery := ⟨(Notification.ofEvent e).toBytes, 0⟩

theorem step_publish (open_channel : y.producer.isOpen = true) (e : Event) (later : List Event)
    (count : Nat) :
    Work.step ⟨.publish e later count, y, s⟩ =
      ⟨proceed count later, y, { s with broker := s.broker.publish (message e).payload }⟩ := by
  simp only [Work.step, Machine.move, move]
  rw [message, LocalService.answer_publish s open_channel]

/-- A cycle whose channel is open publishes all that it has found. -/
theorem leads_proceed (open_channel : y.producer.isOpen = true) (count : Nat) (later : List Event)
    (reached : Reached x s) : ∃ y' s', Work.Leads ⟨proceed count later, y, s⟩ ⟨.finished, y', s'⟩ ∧
      Reached x s' ∧ s'.notifications = s.notifications ∧
      s'.broker.queue.messages = s.broker.queue.messages ++ later.map message := by
  induction later generalizing s with
  | nil =>
    refine ⟨_, s, Work.Leads.step (Work.Leads.refl _), reached, rfl, ?_⟩
    rw [List.map_nil, List.append_nil]
  | cons e later ih =>
    have published : (s.answer y (.produce (.publish (message e).payload))).2.2 =
        { s with broker := s.broker.publish (message e).payload } := by
      rw [s.answer_publish open_channel]
    have next : Reached x { s with broker := s.broker.publish (message e).payload } := by
      rw [← published]
      exact reached.other y _ fun call same => by cases same
    obtain ⟨y', s', leads, reached', notifications, queue⟩ := ih next
    refine ⟨y', s', Work.Leads.step ?_, reached', notifications, ?_⟩
    · rw [proceed, step_publish open_channel]
      exact leads
    · rw [queue, List.map_cons]
      exact List.append_assoc _ [message e] _

/-- What a cycle is told when nothing fails. -/
theorem leads_finished (reached : Reached x s) (y : Endpoint) (now : Timestamp)
    (interval : Duration) :
    ∃ y' s', Work.Leads ⟨start now interval, y, s⟩ ⟨.finished, y', s'⟩ ∧ Reached x s' ∧
      s'.notifications = s.notifications ∧
      s'.broker.queue.messages = s.broker.queue.messages ++
        (Query.select (·.remindsWithin (window now interval)) (·.remindIn)
          s.events.items).map message := by
  cases found : Query.answer
      (Query.select (·.remindsWithin (window now interval)) (·.remindIn) s.events.items) with
  | error e =>
    obtain ⟨rfl, none_due⟩ := Query.answer_eq_error.mp found
    refine ⟨y, s, Work.Leads.step ?_, reached, rfl, ?_⟩
    · simp only [Work.step, start, Machine.move, move, LocalService.answer,
        EventStore.findByRemindIn, found]
      exact Work.Leads.refl _
    · rw [none_due, List.map_nil, List.append_nil]
  | ok due =>
    obtain ⟨rfl, -⟩ := Query.answer_eq_ok.mp found
    obtain ⟨y', s', leads, rest⟩ := leads_proceed (y := { y with producer := y.producer.openChannel })
      rfl _ _ reached
    refine ⟨y', s', Work.Leads.step (Work.Leads.step ?_), rest⟩
    simp only [Work.step, start, Machine.move, move, LocalService.answer,
      EventStore.findByRemindIn, found]
    exact leads

end Dispatch

/-! ## The sender -/

def Delivery.notification? (d : Delivery) : Option Notification := Notification.read? d.payload

namespace Queue

/-- The first notification of an event that is in line. -/
def first? (q : Queue) (id : String) : Option Notification :=
  (q.messages.filterMap Delivery.notification?).find? (·.eventId = id)

/-- How often messages can still be handed out, at most. -/
def chances (maxDeliver : Nat) : List Delivery → Nat
  | [] => 0
  | d :: rest => maxDeliver - d.attempts + 1 + chances maxDeliver rest

def remaining (q : Queue) : Nat := chances q.maxDeliver q.messages

theorem chances_append (maxDeliver : Nat) (ds es : List Delivery) :
    chances maxDeliver (ds ++ es) = chances maxDeliver ds + chances maxDeliver es := by
  induction ds with
  | nil => exact (Nat.zero_add _).symm
  | cons d ds ih =>
    rw [List.cons_append, chances, ih, chances]
    omega

variable {q : Queue} {t : Taken}

theorem remaining_take (h : q.take = some t) : t.queue.remaining < q.remaining := by
  obtain ⟨d, rest, front, -, same, ⟨-, gone⟩ | ⟨-, -, allowed, back⟩⟩ := take_cases h
  · simp only [remaining, front, same, gone, chances]
    omega
  · simp only [remaining, front, same, back, chances, chances_append]
    omega

/-- What is handed out was the first of its event, and what stays in line keeps its order. -/
theorem first?_take (h : q.take = some t) (id : String) :
    q.first? id = (t.item.toOption.filter (·.eventId = id)).or (t.queue.first? id) := by
  obtain ⟨d, rest, front, handed, -, after⟩ := take_cases h
  have stays : t.queue.messages.filterMap Delivery.notification? =
      rest.filterMap Delivery.notification? := by
    rcases after with ⟨-, gone⟩ | ⟨-, unreadable, -, back⟩
    · rw [gone]
    · have nothing : Delivery.notification? ⟨d.payload, d.attempts + 1⟩ = none :=
        Option.not_isSome_iff_eq_none.mp (ne_true_of_eq_false unreadable)
      rw [back, List.filterMap_append, List.filterMap_cons_none nothing, List.filterMap_nil,
        List.append_nil]
  have item : t.item.toOption = d.notification? := handed ▸ d.item_toOption
  unfold first?
  rw [stays, front, item]
  cases read : d.notification? with
  | none => rw [List.filterMap_cons_none read, Option.filter_none, Option.none_or]
  | some n =>
    rw [List.filterMap_cons_some read, List.find?_cons]
    by_cases same : n.eventId = id
    · simp only [same, decide_true, Option.filter_some, if_true, Option.some_or]
    · simp only [same, decide_false, Option.filter_some, Bool.false_eq_true, if_false,
        Option.none_or]

end Queue

namespace Sender

variable {x : Endpoint} {s : LocalService}

/-- What a sender does with what it hears. -/
def heard : Item → Sender
  | .ok n => .record n
  | .error _ => .listening

theorem step_listening {item : Item} (polled : (s.poll x).1 = some item) :
    Work.step ⟨Sender.listening, x, s⟩ = ⟨heard item, x, (s.poll x).2.2⟩ := by
  simp only [Work.step, Machine.move, move]
  generalize s.poll x = look at polled
  obtain ⟨found, notices, after⟩ := look
  obtain rfl : found = some item := polled
  cases item <;> rfl

/-- Nobody but the sender is told whether the notification was the first of its event. -/
theorem step_record (n : Notification) : ∃ notifications,
    Work.step ⟨.record n, x, s⟩ = ⟨Sender.listening, x, { s with notifications }⟩ ∧
    (s.answer x (.record n)).2 = (x, { s with notifications }) ∧
    ∀ id, notifications.find? id =
      (s.notifications.find? id).or (if n.eventId = id then some n else none) := by
  obtain ⟨notifications, after, answer, found⟩ := s.answer_record x n
  refine ⟨notifications, ?_, after, found⟩
  simp only [Work.step, Machine.move, move, after]
  rcases answer with done | known
  · rw [done]
  · rw [known]

/-- One message, from the queue to the repository. -/
theorem leads_next {stream : Nat} (taken : x.stream = some stream) (reached : Reached x s)
    {t : Queue.Taken} (item : (s.broker.poll stream).item = some t.item)
    (queue : (s.broker.poll stream).broker.queue = t.queue) :
    ∃ s', Work.Leads ⟨Sender.listening, x, s⟩ ⟨Sender.listening, x, s'⟩ ∧ Reached x s' ∧
      s'.broker.queue = t.queue ∧
      ∀ id, s'.notifications.find? id =
        (s.notifications.find? id).or (t.item.toOption.filter (·.eventId = id)) := by
  have polled : (s.poll x).1 = some t.item ∧
      (s.poll x).2.2 = { s with broker := (s.broker.poll stream).broker } := by
    simp only [LocalService.poll, taken, item, and_self]
  have heard_it := step_listening polled.1
  have looked : Reached x (s.poll x).2.2 := reached.poll
  rw [polled.2] at heard_it looked
  cases handed : t.item with
  | error e =>
    refine ⟨_, Work.Leads.step ?_, looked, queue, ?_⟩
    · rw [heard_it, handed]
      exact Work.Leads.refl _
    · intro id
      exact (Option.or_none).symm
  | ok n =>
    obtain ⟨notifications, recorded, after, found⟩ := step_record (x := x)
      (s := { s with broker := (s.broker.poll stream).broker }) n
    refine ⟨{ s with notifications, broker := (s.broker.poll stream).broker },
      Work.Leads.step (Work.Leads.step ?_), ?_, queue, ?_⟩
    · rw [heard_it, handed, heard, recorded]
      exact Work.Leads.refl _
    · have own := looked.own (.record n)
      rw [after] at own
      exact own
    · intro id
      rw [found]
      congr 1
      by_cases same : n.eventId = id
      · simp only [same, Except.toOption, Option.filter_some, decide_true, if_true]
      · simp only [same, Except.toOption, Option.filter_some, decide_false, if_false,
          Bool.false_eq_true]

/-- A sender that listens empties the queue, and of each event it records the first notification
that was in line, if none was recorded before. -/
theorem drains {stream : Nat} (taken : x.stream = some stream) (reached : Reached x s) :
    ∃ s', Work.Leads ⟨Sender.listening, x, s⟩ ⟨Sender.listening, x, s'⟩ ∧ Reached x s' ∧
      (s'.poll x).1 = none ∧ s'.broker.queue.messages = [] ∧
      ∀ id, s'.notifications.find? id =
        (s.notifications.find? id).or (s.broker.queue.first? id) := by
  induction left : s.broker.queue.remaining using Nat.strongRecOn generalizing s with
  | _ left' ih =>
    subst left
    rcases reached.attended.takes stream with ⟨nothing, empty, -⟩ | ⟨t, next, item, queue⟩
    · refine ⟨s, Work.Leads.refl _, reached, ?_, empty, ?_⟩
      · simp only [LocalService.poll, taken, nothing]
      · intro id
        rw [Queue.first?, empty, List.filterMap_nil, List.find?_nil, Option.or_none]
    · obtain ⟨s', leads, reached', queue', found⟩ := leads_next taken reached item queue
      have fewer : s'.broker.queue.remaining < s.broker.queue.remaining :=
        queue' ▸ Queue.remaining_take next
      obtain ⟨s'', leads', reached'', quiet, empty, found'⟩ := ih _ fewer reached' rfl
      refine ⟨s'', leads.trans leads', reached'', quiet, empty, ?_⟩
      intro id
      rw [found', found, queue', Queue.first?_take next, Option.or_assoc]

end Sender

/-! ## Arrival -/

/-- Of events with different ids each is the first of its own. -/
theorem find?_ofEvent {due : List Event} {e : Event} (member : e ∈ due)
    (only : ∀ d ∈ due, d.id = e.id → d = e) :
    (due.map Notification.ofEvent).find? (·.eventId = e.id) = some (.ofEvent e) := by
  cases found : (due.map Notification.ofEvent).find? (·.eventId = e.id) with
  | none =>
    have other := List.find?_eq_none.mp found _ (List.mem_map_of_mem member)
    exact absurd (decide_eq_true rfl) other
  | some n =>
    obtain ⟨d, listed, rfl⟩ := List.mem_map.mp (List.mem_of_find?_eq_some found)
    have ids := List.find?_some found
    rw [only d listed (of_decide_eq_true ids)]

theorem Dispatch.notifications_of_messages (due : List Event) :
    (due.map message).filterMap Delivery.notification? = due.map .ofEvent := by
  rw [List.filterMap_map, ← List.filterMap_eq_map]
  apply List.filterMap_congr
  intro e _
  simp only [Function.comp_apply, Delivery.notification?, Notification.read?, message,
    Notification.ofBytes_toBytes]
  rfl

/-- **A dispatched reminder arrives.** Whatever the service in memory has come to, a dispatch cycle
whose calls are all carried out ends, and the sender then empties the queue in finitely many steps.
After that a notification of every event that the cycle has found is recorded: the one that was
recorded before, or else the first in the queue that the cycle has left, which is that of the event
itself if no older one was pending. -/
theorem due_recorded {x : Endpoint} {s : LocalService} {stream : Nat} (reached : Reached x s)
    (taken : x.stream = some stream) (y : Endpoint) (now : Timestamp) (interval : Duration) :
    ∃ y' s' s'',
      Work.Leads ⟨Dispatch.start now interval, y, s⟩ ⟨.finished, y', s'⟩ ∧
      Work.Leads ⟨Sender.listening, x, s'⟩ ⟨.listening, x, s''⟩ ∧
      (s''.poll x).1 = none ∧ s''.broker.pending = 0 ∧
      ∀ due, s.events.findByRemindIn (Dispatch.window now interval) = .ok due → ∀ e ∈ due,
        ∃ n, s''.notifications.find? e.id = some n ∧ n.eventId = e.id ∧
          (∀ m, s.notifications.find? e.id = some m → n = m) ∧
          (s.notifications.find? e.id = none → s'.broker.queue.first? e.id = some n) ∧
          (s.notifications.find? e.id = none → s.broker.queue.first? e.id = none →
            n = .ofEvent e) := by
  obtain ⟨y', s', cycle, reached', same, queue⟩ := Dispatch.leads_finished reached y now interval
  obtain ⟨s'', sender, reached'', quiet, empty, found⟩ := Sender.drains taken reached'
  refine ⟨y', s', s'', cycle, sender, quiet, congrArg List.length empty, ?_⟩
  intro due answered e member
  have due_eq := (Query.answer_eq_ok.mp answered).1
  have stored : ∀ d ∈ due, s.events.find? d.id = some d := by
    intro d hd
    rw [due_eq, Query.mem_select] at hd
    exact (Collection.mem_items_iff reached.keyed.events).mp hd.1
  have only : ∀ d ∈ due, d.id = e.id → d = e := by
    intro d hd ids
    have one := stored d hd
    rw [ids, stored e member] at one
    exact (Option.some.inj one).symm
  have first : s'.broker.queue.first? e.id =
      (s.broker.queue.first? e.id).or (some (.ofEvent e)) := by
    unfold Queue.first?
    rw [queue, ← due_eq, List.filterMap_append, List.find?_append,
      Dispatch.notifications_of_messages, find?_ofEvent member only]
  have final := found e.id
  rw [same] at final
  cases before : s.notifications.find? e.id with
  | some m =>
    rw [before, Option.some_or] at final
    refine ⟨m, final, reached''.keyed.notifications _ m final, ?_, ?_, ?_⟩
    · intro m' known
      exact Option.some.inj known
    · intro unknown
      cases unknown
    · intro unknown
      cases unknown
  | none =>
    rw [before, Option.none_or] at final
    obtain ⟨n, line⟩ : ∃ n, s'.broker.queue.first? e.id = some n := by
      rw [first]
      cases s.broker.queue.first? e.id with
      | none => exact ⟨_, rfl⟩
      | some n => exact ⟨n, rfl⟩
    rw [line] at final
    refine ⟨n, final, reached''.keyed.notifications _ n final, ?_, fun _ => line, ?_⟩
    · intro m known
      cases known
    · intro _ nothing
      rw [nothing, Option.none_or, line] at first
      exact Option.some.inj first

namespace Reached

/-- The sender has taken its stream. -/
def tuned : Endpoint × LocalService :=
  [ConsumerCall.openChannel, .beginConsume, .receive].foldl
    (fun p call => (p.2.answer p.1 (.consume call)).2) (.new, .new 5)

theorem reached_tuned : Reached tuned.1 tuned.2 :=
  (((Reached.new 5).own (.consume .openChannel)).own (.consume .beginConsume)).own
    (.consume .receive)

def seminar : Event := ⟨"e2", "Seminar", .zero, .zero, "", "bob", .zero⟩

/-- A seminar is stored, and something that nobody can decode is in the queue. -/
def littered : LocalService :=
  ((tuned.2.answer .new (.insert seminar)).2.2.answer ⟨⟨true⟩, .new, none⟩
    (.produce (.publish [0x7B]))).2.2

theorem reached_littered : Reached tuned.1 littered :=
  (reached_tuned.other .new (.insert seminar) (fun _ same => by cases same)).other _ _
    (fun _ same => by cases same)

theorem seminar_arrives :
    Reached tuned.1 littered ∧ tuned.1.stream = some 0 ∧ littered.broker.pending = 1 ∧
    ∃ y' s' s'',
      Work.Leads ⟨Dispatch.start .zero (.ofSeconds 60), .new, littered⟩ ⟨.finished, y', s'⟩ ∧
      Work.Leads ⟨Sender.listening, tuned.1, s'⟩ ⟨.listening, tuned.1, s''⟩ ∧
      s''.notifications.find? "e2" = some (.ofEvent seminar) := by
  have taken : tuned.1.stream = some 0 := by cbv
  have found : littered.events.findByRemindIn (Dispatch.window .zero (.ofSeconds 60)) =
      .ok [seminar] := by cbv
  have unknown : littered.notifications.find? "e2" = none := by cbv
  have nothing : littered.broker.queue.first? "e2" = none := by cbv
  obtain ⟨y', s', s'', cycle, sender, -, -, recorded⟩ :=
    due_recorded reached_littered taken .new .zero (.ofSeconds 60)
  obtain ⟨n, stored, -, -, -, own⟩ := recorded [seminar] found seminar (.head _)
  refine ⟨reached_littered, taken, by cbv, y', s', s'', cycle, sender, ?_⟩
  rw [← own unknown nothing]
  exact stored

end Reached
end Agenda
