import Agenda.Broker.Remote
import Agenda.Proofs.Broker.Queue

/-! A session of a message server, look by look: what it is handed, what it asks the server for and
what it yields. What can be decoded is acknowledged before it is yielded, and what cannot be decoded
stays with the server. -/
namespace Agenda

/-- What passes between a session, its server and whoever looks at it. -/
inductive Session.Deed
  | handed (m : Message)
  | asked (r : ServerRequest)
  | yielded (i : Item)

namespace Session.Deed

def item? : Deed → Option Item
  | .yielded i => some i
  | .handed _ | .asked _ => none

def request? : Deed → Option ServerRequest
  | .asked r => some r
  | .handed _ | .yielded _ => none

end Session.Deed

namespace Message

def isReadable (m : Message) : Bool := Notification.isReadable m.payload

/-- What a message is to whoever receives it. -/
def item (m : Message) : Item := (Notification.ofBytes m.payload).mapError .undecodable

/-- What becomes of a message that a session is handed. -/
def course (m : Message) : List Session.Deed :=
  if m.isReadable then [.handed m, .asked (.acknowledge m.number), .yielded m.item]
  else [.handed m, .yielded m.item]

theorem item_eq_ok_iff {m : Message} {n : Notification} :
    m.item = .ok n ↔ Notification.ofBytes m.payload = .ok n := by
  unfold item
  cases Notification.ofBytes m.payload <;> simp [Except.mapError]

theorem not_isReadable_iff {m : Message} :
    m.isReadable = false ↔ ∃ e, m.item = .error (.undecodable e) := by
  unfold isReadable Notification.isReadable Notification.read? item
  cases Notification.ofBytes m.payload <;> simp [Except.mapError, Except.toOption]

theorem items_courses (ms : List Message) :
    (ms.flatMap course).filterMap Session.Deed.item? = ms.map item := by
  induction ms with
  | nil => rfl
  | cons m ms ih =>
    rw [List.flatMap_cons, List.filterMap_append, ih, course]
    split <;> rfl

theorem requests_courses (ms : List Message) :
    (ms.flatMap course).filterMap Session.Deed.request? =
      (ms.filter isReadable).map (.acknowledge ·.number) := by
  induction ms with
  | nil => rfl
  | cons m ms ih =>
    rw [List.flatMap_cons, List.filterMap_append, ih, course]
    cases readable : m.isReadable with
    | true =>
      rw [List.filter_cons_of_pos readable]
      rfl
    | false =>
      rw [List.filter_cons_of_neg (ne_true_of_eq_false readable)]
      rfl

end Message

namespace BrokerServer

/-- The server after an acknowledgement. -/
def acknowledge (s : BrokerServer) (number : Nat) : BrokerServer :=
  { s with
    requests := .acknowledge number :: s.requests
    unacknowledged := s.unacknowledged.erase number }

theorem ask_acknowledge (s : BrokerServer) (number : Nat) :
    s.ask (.acknowledge number) = (true, s.acknowledge number) := rfl

/-- A delivery takes the message from the queue, and no more. -/
theorem take_front {s : BrokerServer} {m : Message} {rest : List Message}
    (front : s.queue = m :: rest) : ∃ after, s.take = some (m, after) ∧ after.queue = rest ∧
      after.requests = s.requests ∧ after.unacknowledged = s.unacknowledged ∧
      (rest ≠ [] → after.generation = s.generation) := by
  refine ⟨{ s with queue := rest }.settle, ?_, ?_⟩
  · simp only [take, front]
  · unfold settle
    split
    · rename_i last
      simp only [Bool.and_eq_true, List.isEmpty_iff] at last
      exact ⟨rfl, rfl, rfl, fun more => absurd last.2 more⟩
    · exact ⟨rfl, rfl, rfl, fun _ => rfl⟩

theorem take_nothing {s : BrokerServer} (empty : s.queue = []) : s.take = none := by
  simp only [take, empty]

end BrokerServer

namespace Session

theorem receive_eq (m : Message) (s : BrokerServer) :
    receive m s = (m.item, if m.isReadable then s.acknowledge m.number else s) := by
  unfold receive Message.item Message.isReadable Notification.isReadable Notification.read?
  cases Notification.ofBytes m.payload <;> rfl

/-- What a look finds, if it is anything. -/
def Find.item? : Find → Option Item
  | .item i => some i
  | .waiting | .ended => none

end Session

/-- A session, its server, and a record of what has passed between them. -/
structure Watch where
  server : BrokerServer
  session : Session
  /-- The messages that the session was handed, the first first. -/
  handed : List Message
  deeds : List Session.Deed

namespace Watch

inductive Act
  /-- Somebody looks at the session. -/
  | look
  /-- Others use the server, or it delivers a message again. -/
  | others (server : BrokerServer)

def new (session : Session) (server : BrokerServer) : Watch := ⟨server, session, [], []⟩

/-- A look at the session. What is missing in the queue after it was handed to the session, and what
the server has been asked meanwhile was asked by the session, before its item was there. -/
def look (x : Watch) : Watch :=
  let (find, session, server) := x.session.poll x.server
  let handed := x.server.queue.take (x.server.queue.length - server.queue.length)
  let asked := server.requests.take (server.requests.length - x.server.requests.length)
  { server, session
    handed := x.handed ++ handed
    deeds := x.deeds ++ handed.map .handed ++ asked.reverse.map .asked ++
      find.item?.toList.map .yielded }

def step (x : Watch) : Act → Watch
  | .look => x.look
  | .others server => { x with server }

def run (x : Watch) (acts : List Act) : Watch := acts.foldl step x

/-! ## One look -/

variable {x : Watch}

theorem look_over (isOver : x.session.isOver = true) : x.look = x := by
  simp [look, Session.poll, isOver, Session.Find.item?]

theorem look_gone (live : x.session.isOver = false)
    (gone : x.session.generation ≠ x.server.generation) : x.look =
      { x with
        session := { x.session with isOver := true }
        deeds := x.deeds ++ [.yielded (.error Remote.refusal)] } := by
  simp [look, Session.poll, live, gone, Session.Find.item?]

/-- What a look does that hands over a message and leaves the others. -/
structure Hands (m : Message) (rest : List Message) (x y : Watch) : Prop where
  session : y.session = x.session
  queue : y.server.queue = rest
  handed : y.handed = x.handed ++ [m]
  deeds : y.deeds = x.deeds ++ m.course
  unacknowledged : y.server.unacknowledged =
    if m.isReadable then x.server.unacknowledged.erase m.number else x.server.unacknowledged
  generation : rest ≠ [] → y.server.generation = x.server.generation

section There

variable (live : x.session.isOver = false) (there : x.session.generation = x.server.generation)
include live there

theorem look_waiting (empty : x.server.queue = []) : x.look = x := by
  simp [look, Session.poll, live, there, BrokerServer.take_nothing empty, Session.Find.item?]

/-- A session whose consumer is there is handed the message at the front. -/
theorem look_handed {m : Message} {rest : List Message} (front : x.server.queue = m :: rest) :
    Hands m rest x x.look := by
  obtain ⟨after, taken, queue, requests, unacknowledged, stays⟩ := BrokerServer.take_front front
  have polled : x.session.poll x.server =
      (.item m.item, x.session, if m.isReadable then after.acknowledge m.number else after) := by
    simp only [Session.poll, live, there, taken, Session.receive_eq, Bool.false_eq_true, if_false,
      ne_eq, not_true]
  constructor
  case generation =>
    intro more
    rw [← stays more]
    cases readable : m.isReadable <;> simp [look, polled, readable, BrokerServer.acknowledge]
  all_goals
    cases readable : m.isReadable <;>
      simp [look, polled, readable, Message.course, BrokerServer.acknowledge, queue, requests,
        unacknowledged, front, Session.Find.item?]

end There

/-! ## Any number of looks -/

/-- What the session has said of its consumer: that it has gone, and this once. -/
def said (x : Watch) : List Item := if x.session.isOver then [.error Remote.refusal] else []

/-- All that has passed is that each message took its course. -/
def Told (x : Watch) : Prop :=
  x.deeds = x.handed.flatMap Message.course ++ x.said.map .yielded

theorem Told.look (h : x.Told) : x.look.Told := by
  cases isOver : x.session.isOver with
  | true =>
    rw [look_over isOver]
    exact h
  | false =>
    have silent : x.said = [] := by simp [said, isOver]
    rw [Told, silent, List.map_nil, List.append_nil] at h
    by_cases there : x.session.generation = x.server.generation
    · cases front : x.server.queue with
      | nil =>
        rw [look_waiting isOver there front, Told, silent, List.map_nil, List.append_nil]
        exact h
      | cons m rest =>
        obtain ⟨session, -, handed, deeds, -, -⟩ := look_handed isOver there front
        have still : x.look.said = [] := by simp [said, session, isOver]
        rw [Told, still, handed, deeds, h, List.flatMap_append, List.flatMap_singleton,
          List.map_nil, List.append_nil]
    · rw [look_gone isOver there, Told, h]
      rfl

theorem told_run (session : Session) (live : session.isOver = false) (server : BrokerServer)
    (acts : List Act) : ((new session server).run acts).Told := by
  have step : ∀ (x : Watch) (a : Act), x.Told → (x.step a).Told := by
    intro x a h
    cases a with
    | look => exact h.look
    | others server => exact h
  have start : (new session server).Told := by simp [Told, said, new, live]
  generalize new session server = x at start ⊢
  induction acts generalizing x with
  | nil => exact start
  | cons a later ih => exact ih (x.step a) (step x a start)

/-- What has been yielded, and what the server has been asked. -/
theorem Told.accounts (h : x.Told) :
    x.deeds.filterMap Session.Deed.item? = x.handed.map Message.item ++ x.said ∧
      x.deeds.filterMap Session.Deed.request? =
        (x.handed.filter Message.isReadable).map (.acknowledge ·.number) := by
  have said_items : (x.said.map Session.Deed.yielded).filterMap Session.Deed.item? = x.said := by
    rw [List.filterMap_map]
    exact List.filterMap_some
  have said_requests :
      (x.said.map Session.Deed.yielded).filterMap Session.Deed.request? = [] := by
    rw [List.filterMap_map]
    exact List.filterMap_eq_nil_iff.mpr fun _ _ => rfl
  rw [h, List.filterMap_append, List.filterMap_append, Message.items_courses,
    Message.requests_courses, said_items, said_requests, List.append_nil]
  exact ⟨rfl, rfl⟩

/-- As long as messages are queued, the session is there for them. -/
def Ready (x : Watch) : Prop :=
  x.server.queue ≠ [] →
    x.session.isOver = false ∧ x.session.generation = x.server.generation

theorem look_empty (empty : x.server.queue = []) :
    x.look.server = x.server ∧ x.look.handed = x.handed := by
  cases isOver : x.session.isOver with
  | true =>
    rw [look_over isOver]
    exact ⟨rfl, rfl⟩
  | false =>
    by_cases there : x.session.generation = x.server.generation
    · rw [look_waiting isOver there empty]
      exact ⟨rfl, rfl⟩
    · rw [look_gone isOver there]
      exact ⟨rfl, rfl⟩

/-- What so many looks come to that nobody interrupts: the queue is handed over from its front, and
what can be decoded of that is no longer kept by the server. -/
structure Drains (n : Nat) (x y : Watch) : Prop where
  handed : y.handed = x.handed ++ x.server.queue.take n
  queue : y.server.queue = x.server.queue.drop n
  unacknowledged : y.server.unacknowledged = x.server.unacknowledged.diff
    (((x.server.queue.take n).filter Message.isReadable).map (·.number))

theorem Ready.drains (ready : x.Ready) (n : Nat) :
    Drains n x (x.run (List.replicate n .look)) := by
  induction n generalizing x with
  | zero => exact ⟨(List.append_nil _).symm, rfl, rfl⟩
  | succ n ih =>
    have first : x.run (List.replicate (n + 1) .look) = x.look.run (List.replicate n .look) := rfl
    rw [first]
    cases front : x.server.queue with
    | nil =>
      obtain ⟨server, handed⟩ := look_empty front
      obtain ⟨later, queue, unacknowledged⟩ :=
        ih (x := x.look) fun more => absurd (server ▸ front) more
      rw [server, front, List.take_nil] at later unacknowledged
      rw [server, front, List.drop_nil] at queue
      rw [handed] at later
      constructor <;> rwa [front]
    | cons m rest =>
      obtain ⟨live, there⟩ := ready (front ▸ List.cons_ne_nil m rest)
      obtain ⟨session, after, handed, -, gone, stays⟩ := look_handed live there front
      have still : x.look.Ready := by
        intro more
        rw [after] at more
        rw [session, stays more]
        exact ⟨live, there⟩
      obtain ⟨later, queue, unacknowledged⟩ := ih still
      rw [after] at later queue unacknowledged
      constructor
      · rw [later, handed, front, List.append_assoc]
        rfl
      · rw [queue, front]
        rfl
      · rw [unacknowledged, gone, front, List.take_succ_cons]
        cases readable : m.isReadable <;> simp [readable]

end Watch

namespace RemoteConsumer

/-- A consumer with an open channel, as an environment configures it. -/
def opened (env : Environment) : RemoteConsumer :=
  ⟨(Config.ofEnvironment env).1.broker, true, false, none⟩

variable {c begun : RemoteConsumer} {s : BrokerServer}

/-- A session begins on an open channel that has none, once the durable consumer is declared. -/
theorem beginConsume_begun (success : (c.beginConsume s).result = .ok begun) :
    c.isOpen = true ∧ c.consuming = false ∧ (Remote.declareConsumer c.config s).result = .ok () ∧
      (c.beginConsume s).server = (Remote.declareConsumer c.config s).server ∧
      begun = { c with
        consuming := true
        held := some ⟨(Remote.declareConsumer c.config s).server.generation, false⟩ } := by
  unfold beginConsume at success ⊢
  cases isOpen : c.isOpen with
  | false => simp [isOpen] at success
  | true =>
    cases consuming : c.consuming with
    | true => simp [isOpen, consuming] at success
    | false =>
      simp only [isOpen, consuming, Bool.not_true, Bool.false_eq_true, if_false] at success ⊢
      generalize Remote.declareConsumer c.config s = declared at success ⊢
      cases result : declared.result with
      | error e =>
        rw [result] at success
        cases success
      | ok =>
        rw [result] at success
        simp only [Except.bind] at success
        split at success <;> cases success
        exact ⟨trivial, trivial, rfl, trivial, rfl⟩

/-- The session that has begun can be taken. -/
theorem receive_begun (success : (c.beginConsume s).result = .ok begun) : begun.receive =
    .ok (⟨(c.beginConsume s).server.generation, false⟩, { begun with held := none }) := by
  obtain ⟨isOpen, -, -, server, rfl⟩ := beginConsume_begun success
  simp [receive, isOpen, server]

end RemoteConsumer

namespace Watch

/-- **What can be decoded is acknowledged, before it is yielded, and nothing else is.** Whatever a
server hands to a session that has begun, and whatever others do to the server meanwhile, each
message takes its course: if it can be decoded it is acknowledged and then its notification is
yielded, otherwise an error is yielded. So there is one item for each message, in their order, and
no request but the acknowledgements of those that can be decoded, one for each and in their order.
The only other item says, once and last, that the durable consumer has gone. While it is there,
looks hand over what is queued, readable or not, and the server keeps what cannot be decoded. -/
theorem acknowledged_iff_readable {c begun : RemoteConsumer} {s : BrokerServer}
    (success : (c.beginConsume s).result = .ok begun) :
    let server := (c.beginConsume s).server
    let session : Session := ⟨server.generation, false⟩
    (∃ after, begun.receive = .ok (session, after)) ∧
    (∀ (m : Message) (n : Notification),
      m.item = .ok n ↔ Notification.ofBytes m.payload = .ok n) ∧
    (∀ m : Message, m.isReadable = false ↔ ∃ e, m.item = .error (.undecodable e)) ∧
    ∀ acts, let x := (new session server).run acts
      x.deeds = x.handed.flatMap Message.course ++ x.said.map .yielded ∧
      x.deeds.filterMap Session.Deed.item? = x.handed.map Message.item ++ x.said ∧
      x.deeds.filterMap Session.Deed.request? =
        (x.handed.filter Message.isReadable).map (.acknowledge ·.number) ∧
      (x.Ready → ∀ n, Drains n x (x.run (List.replicate n .look))) := by
  intro server session
  refine ⟨⟨_, RemoteConsumer.receive_begun success⟩, fun _ _ => Message.item_eq_ok_iff,
    fun _ => Message.not_isReadable_iff, ?_⟩
  intro acts x
  have told : x.Told := told_run session rfl server acts
  exact ⟨told, told.accounts.1, told.accounts.2, fun ready => ready.drains⟩

def concert : Notification := ⟨"e1", "Concert", .zero, "ann"⟩

/-- A consumer where nothing is set. -/
def listener : RemoteConsumer := .opened []

/-- Three messages wait, of which the second cannot be decoded. -/
def stocked : BrokerServer :=
  ((BrokerServer.new.push concert.toBytes).push [0x7B]).push concert.toBytes

theorem brace_kept : ∃ begun : RemoteConsumer, (listener.beginConsume stocked).result = .ok begun ∧
    let x := (new ⟨0, false⟩ (listener.beginConsume stocked).server).run (List.replicate 3 .look)
    x.handed = stocked.queue ∧ x.server.unacknowledged = [2] ∧
      x.deeds.filterMap Session.Deed.request? = [.acknowledge 1, .acknowledge 3] := by
  obtain ⟨begun, success⟩ : ∃ begun, (listener.beginConsume stocked).result = .ok begun := ⟨_, rfl⟩
  obtain ⟨-, -, -, told⟩ := acknowledged_iff_readable success
  obtain ⟨-, -, -, drains⟩ := told []
  obtain ⟨-, -, asked, -⟩ := told (List.replicate 3 .look)
  obtain ⟨all, -, kept⟩ := drains (fun _ => ⟨rfl, rfl⟩) 3
  have handed : ((new ⟨0, false⟩ (listener.beginConsume stocked).server).run
      (List.replicate 3 .look)).handed = stocked.queue := all
  have readable : stocked.queue.filter Message.isReadable =
      [⟨1, concert.toBytes⟩, ⟨3, concert.toBytes⟩] := rfl
  refine ⟨begun, success, handed, kept.trans ?_, asked.trans ?_⟩
  · change [1, 2, 3].diff ((stocked.queue.filter Message.isReadable).map (·.number)) = [2]
    rw [readable]
    rfl
  · change ((((new ⟨0, false⟩ (listener.beginConsume stocked).server).run
      (List.replicate 3 .look)).handed).filter Message.isReadable).map _ = _
    rw [handed, readable]
    rfl

end Watch
end Agenda
