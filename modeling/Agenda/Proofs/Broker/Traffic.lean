import Mathlib
import Agenda.Call
import Agenda.Proofs.Broker.Queue
import Agenda.Proofs.Wire

/-! What goes through a broker that any number of producers, consumers and streams share. Messages
that can be decoded are handed out once each and in the order in which they were published, however
many others go round between them. -/
namespace Agenda

/-- A broker and those who use it, by their numbers. -/
structure Traffic where
  broker : LocalBroker
  producers : Nat → LocalProducer
  consumers : Nat → LocalConsumer
  /-- The streams that somebody has taken and not given up. -/
  streams : List Nat
  /-- The payloads that were accepted, the first first. -/
  accepted : List Bytes
  /-- What the streams have yielded, the first first. -/
  yielded : List Item

namespace Traffic

/-- What one of them does. -/
inductive Act
  | produce (producer : Nat) (call : ProducerCall)
  | consume (consumer : Nat) (call : ConsumerCall)
  | poll (stream : Nat)
  | drop (stream : Nat)

def new (maxDeliver : Int) : Traffic where
  broker := .new maxDeliver
  producers := fun _ => .new
  consumers := fun _ => .new
  streams := []
  accepted := []
  yielded := []

def withProducer (x : Traffic) (k : Nat) (p : LocalProducer) : Traffic :=
  { x with producers := fun j => if j = k then p else x.producers j }

def withConsumer (x : Traffic) (k : Nat) (c : LocalConsumer) : Traffic :=
  { x with consumers := fun j => if j = k then c else x.consumers j }

def produce (x : Traffic) (k : Nat) : ProducerCall → Traffic
  | .openChannel => x.withProducer k (x.producers k).openChannel
  | .publish payload => match (x.producers k).publish x.broker payload with
    | .ok broker => { x with broker, accepted := x.accepted ++ [payload] }
    | .error _ => x
  | .closeChannel | .closeConnection => x.withProducer k (x.producers k).closeChannel

def consume (x : Traffic) (k : Nat) : ConsumerCall → Traffic
  | .openChannel => x.withConsumer k (x.consumers k).openChannel
  | .beginConsume => match (x.consumers k).beginConsume x.broker with
    | .ok (c, broker) => { x.withConsumer k c with broker }
    | .error _ => x
  | .receive => match (x.consumers k).receive with
    | .ok (stream, c) => { x.withConsumer k c with streams := stream :: x.streams }
    | .error _ => x
  | .closeChannel | .closeConnection => x.withConsumer k (x.consumers k).closeChannel

def poll (x : Traffic) (stream : Nat) : Traffic :=
  let polled := x.broker.poll stream
  { x with broker := polled.broker, yielded := x.yielded ++ polled.item.toList }

/-- Only streams that were taken can be polled or dropped. -/
def step (x : Traffic) : Act → Traffic
  | .produce k call => x.produce k call
  | .consume k call => x.consume k call
  | .poll stream => if stream ∈ x.streams then x.poll stream else x
  | .drop stream =>
    if stream ∈ x.streams then
      { x with broker := x.broker.drop stream, streams := x.streams.erase stream }
    else x

def run (x : Traffic) (acts : List Act) : Traffic := acts.foldl step x

def queued (x : Traffic) : List Delivery := x.broker.queue.messages

/-- The payloads that wait and can be decoded. -/
def readable (x : Traffic) : List Bytes :=
  (x.queued.map (·.payload)).filter Notification.isReadable

/-! ## First in, first out -/

/-- What has left the queue was at its front, and each message that left was yielded. Of what has
come in, all that can be decoded was published. -/
structure Flow (x y : Traffic) (left entered : List Delivery) (published : List Bytes) : Prop where
  queue : x.queued ++ entered = left ++ y.queued
  yielded : y.yielded = x.yielded ++ left.map Delivery.item
  accepted : y.accepted = x.accepted ++ published
  readable : (entered.map (·.payload)).filter Notification.isReadable =
    published.filter Notification.isReadable

namespace Flow

variable {x y z : Traffic}

theorem trans {left left' entered entered' : List Delivery} {published published' : List Bytes}
    (h : Flow x y left entered published) (h' : Flow y z left' entered' published') :
    Flow x z (left ++ left') (entered ++ entered') (published ++ published') where
  queue := by
    calc x.queued ++ (entered ++ entered') = left ++ y.queued ++ entered' := by
          rw [← h.queue, List.append_assoc]
      _ = left ++ left' ++ z.queued := by
          rw [List.append_assoc, h'.queue, ← List.append_assoc]
  yielded := by rw [h'.yielded, h.yielded, List.map_append, List.append_assoc]
  accepted := by rw [h'.accepted, h.accepted, List.append_assoc]
  readable := by
    rw [List.map_append, List.filter_append, List.filter_append, h.readable, h'.readable]

/-- Nothing goes through. -/
theorem idle (queue : y.queued = x.queued) (yielded : y.yielded = x.yielded)
    (accepted : y.accepted = x.accepted) : Flow x y [] [] [] where
  queue := by rw [List.append_nil, List.nil_append, queue]
  yielded := by rw [yielded, List.map_nil, List.append_nil]
  accepted := by rw [accepted, List.append_nil]
  readable := rfl

end Flow

variable (x : Traffic)

theorem flow_produce (k : Nat) (call : ProducerCall) :
    ∃ entered published, Flow x (x.produce k call) [] entered published := by
  cases call with
  | openChannel | closeChannel | closeConnection => exact ⟨_, _, .idle rfl rfl rfl⟩
  | publish payload =>
    simp only [produce, LocalProducer.publish]
    by_cases isOpen : (x.producers k).isOpen = true
    · simp only [isOpen, if_true]
      exact ⟨[⟨payload, 0⟩], [payload], rfl, (List.append_nil _).symm, rfl, rfl⟩
    · simp only [isOpen]
      exact ⟨_, _, .idle rfl rfl rfl⟩

theorem flow_consume (k : Nat) (call : ConsumerCall) : Flow x (x.consume k call) [] [] [] := by
  cases call with
  | openChannel | closeChannel | closeConnection => exact .idle rfl rfl rfl
  | beginConsume =>
    simp only [consume, LocalConsumer.beginConsume]
    split
    · rename_i c broker began
      split at began
      · cases began
      · split at began <;> cases began
        exact .idle rfl rfl rfl
    · exact .idle rfl rfl rfl
  | receive =>
    simp only [consume]
    split <;> exact .idle rfl rfl rfl

theorem flow_poll (stream : Nat) : ∃ left entered, Flow x (x.poll stream) left entered [] := by
  rcases x.broker.poll_cases stream with ⟨nothing, same, -⟩ | ⟨-, t, taken, item, queue⟩
  · refine ⟨[], [], .idle ?_ ?_ rfl⟩
    · simp only [queued, poll, same]
    · simp only [poll, nothing, Option.toList_none, List.append_nil]
  · obtain ⟨d, rest, front, handed, -, rest_eq⟩ := Queue.take_cases taken
    have yielded : (x.poll stream).yielded = x.yielded ++ [d.item] := by
      simp only [poll, item, handed, Option.toList_some]
    have after : (x.poll stream).queued = t.queue.messages := by simp only [queued, poll, queue]
    rcases rest_eq with ⟨-, gone⟩ | ⟨-, unreadable, -, back⟩
    · refine ⟨[d], [], ?_, yielded, (List.append_nil _).symm, rfl⟩
      rw [after, gone, List.append_nil]
      exact front
    · refine ⟨[d], [⟨d.payload, d.attempts + 1⟩], ?_, yielded, (List.append_nil _).symm, ?_⟩
      · rw [after, back, queued, front]
        rfl
      · exact List.filter_cons_of_neg (ne_true_of_eq_false unreadable)

theorem flow_step (a : Act) :
    ∃ left entered published, Flow x (x.step a) left entered published := by
  cases a with
  | produce k call => exact ⟨[], x.flow_produce k call⟩
  | consume k call => exact ⟨[], [], [], x.flow_consume k call⟩
  | poll stream =>
    simp only [step]
    split
    · obtain ⟨left, entered, flow⟩ := x.flow_poll stream
      exact ⟨left, entered, [], flow⟩
    · exact ⟨[], [], [], .idle rfl rfl rfl⟩
  | drop stream =>
    simp only [step]
    split <;> exact ⟨[], [], [], .idle rfl rfl rfl⟩

theorem flow_run (acts : List Act) :
    ∃ left entered published, Flow x (x.run acts) left entered published := by
  induction acts generalizing x with
  | nil => exact ⟨[], [], [], .idle rfl rfl rfl⟩
  | cons a later ih =>
    obtain ⟨left, entered, published, first⟩ := x.flow_step a
    obtain ⟨left', entered', published', rest⟩ := ih (x.step a)
    exact ⟨_, _, _, first.trans rest⟩

/-! ## Messages that can be decoded -/

/-- Streams hand out the notifications of the messages that have left. -/
theorem notifications_of_items (left : List Delivery) :
    (left.map Delivery.item).filterMap Except.toOption =
      ((left.map (·.payload)).filter Notification.isReadable).filterMap Notification.read? := by
  rw [Notification.filterMap_read?, List.filterMap_map, List.filterMap_map]
  exact List.filterMap_congr fun d _ => d.item_toOption

/-- A message moves forward with each one that leaves, and leaves itself when it is at the front. -/
theorem Flow.moves {x y : Traffic} {left entered : List Delivery} {published : List Bytes}
    (h : Flow x y left entered published) {ahead behind : List Delivery} {d : Delivery}
    (place : x.queued = ahead ++ d :: behind) :
    (left.length ≤ ahead.length → y.queued = ahead.drop left.length ++ d :: (behind ++ entered)) ∧
    (ahead.length < left.length → y.yielded[x.yielded.length + ahead.length]? = some d.item) := by
  have line : ahead ++ d :: (behind ++ entered) = left ++ y.queued := by
    rw [← h.queue, place, List.append_assoc, List.cons_append]
  constructor
  · intro before
    rw [← List.drop_append_of_le_length before, line, List.drop_left]
  · intro after
    have taken : left[ahead.length]? = some d := by
      rw [← List.getElem?_append_left after, ← line, List.getElem?_append_right (Nat.le_refl _),
        Nat.sub_self]
      rfl
    rw [h.yielded, List.getElem?_append_right (Nat.le_add_right _ _), Nat.add_sub_cancel_left,
      List.getElem?_map, taken]
    rfl

/-- A stream that is awake is not kept waiting while there is a message. -/
theorem poll_takes {stream : Nat} (taken : stream ∈ x.streams)
    (awake : stream ∉ x.broker.bell.asleep) (some_queued : x.queued ≠ []) :
    (x.step (.poll stream)).yielded.length = x.yielded.length + 1 := by
  simp only [step, taken, if_true, poll]
  rcases x.broker.poll_cases stream with ⟨-, -, asleep | empty⟩ | ⟨-, t, -, item, -⟩
  · exact absurd asleep awake
  · exact absurd empty some_queued
  · rw [item, Option.toList_some, List.length_append]
    rfl

/-- **Messages that can be decoded are handed out once each, in the order of their publication.**
Whatever producers, consumers and streams do, what the streams have handed out are the first of
these messages, and the others wait in the queue in the same order. One with `k` messages ahead of
it is handed out by the look that takes the message after these `k`, neither earlier nor later, and
a stream that is awake always takes one. -/
theorem readable_in_order (maxDeliver : Int) (acts : List Act) :
    let x := (new maxDeliver).run acts
    (∃ gone, x.accepted.filter Notification.isReadable = gone ++ x.readable ∧
      x.yielded.filterMap Except.toOption = gone.filterMap Notification.read?) ∧
    (∀ ahead d behind n, x.queued = ahead ++ d :: behind →
      Notification.ofBytes d.payload = .ok n → ∀ later,
        let y := x.run later
        let taken := y.yielded.length - x.yielded.length
        (taken ≤ ahead.length →
          ∃ entered, y.queued = ahead.drop taken ++ d :: (behind ++ entered)) ∧
        (ahead.length < taken → y.yielded[x.yielded.length + ahead.length]? = some (.ok n))) ∧
    ∀ stream, stream ∈ x.streams → stream ∉ x.broker.bell.asleep → x.queued ≠ [] →
      (x.step (.poll stream)).yielded.length = x.yielded.length + 1 := by
  intro x
  refine ⟨?_, ?_, fun stream => x.poll_takes⟩
  · obtain ⟨left, entered, published, flow⟩ := (new maxDeliver).flow_run acts
    have all_entered : entered = left ++ x.queued := flow.queue
    refine ⟨(left.map (·.payload)).filter Notification.isReadable, ?_, ?_⟩
    · have all_published : x.accepted = published := flow.accepted
      calc x.accepted.filter Notification.isReadable
          = (entered.map (·.payload)).filter Notification.isReadable := by
            rw [all_published, flow.readable]
        _ = _ := by rw [all_entered, List.map_append, List.filter_append]; rfl
    · rw [flow.yielded, ← notifications_of_items]
      rfl
  · intro ahead d behind n place decoded later y taken
    obtain ⟨left, entered, published, flow⟩ := x.flow_run later
    have count : taken = left.length := by
      simp only [taken, y, flow.yielded, List.length_append, List.length_map]
      omega
    obtain ⟨before, after⟩ := flow.moves place
    rw [count]
    constructor
    · intro few
      exact ⟨entered, before few⟩
    · intro enough
      rw [after enough, Delivery.item_readable decoded]

/-- A stream is taken, and a message that nobody can decode is published before one that can be
decoded. -/
def mixed (n : Notification) : List Act :=
  [.consume 0 .openChannel, .consume 0 .beginConsume, .consume 0 .receive,
    .produce 0 .openChannel, .produce 0 (.publish [0x7B]), .produce 0 (.publish n.toBytes)]

def lecture : Notification := ⟨"e1", "Lecture", .zero, "ann"⟩

/-- The second look that takes a message hands out the notification, although the first one has put
its message back. -/
theorem lecture_handed_out :
    let x := (new 5).run (mixed lecture)
    let y := x.run [.poll 0, .poll 0]
    x.queued = [⟨[0x7B], 0⟩, ⟨lecture.toBytes, 0⟩] ∧ y.queued = [⟨[0x7B], 1⟩] ∧
      y.yielded[1]? = some (.ok lecture) := by
  intro x y
  obtain ⟨-, moves, -⟩ := readable_in_order 5 (mixed lecture)
  have place : x.queued = [⟨[0x7B], 0⟩] ++ ⟨lecture.toBytes, 0⟩ :: [] := rfl
  have decoded : Notification.ofBytes lecture.toBytes = .ok lecture :=
    Notification.ofBytes_toBytes lecture
  have taken : 1 < y.yielded.length - x.yielded.length := by cbv
  refine ⟨place, by cbv, ?_⟩
  exact (moves _ _ _ lecture place decoded [.poll 0, .poll 0]).2 taken

end Traffic
end Agenda
