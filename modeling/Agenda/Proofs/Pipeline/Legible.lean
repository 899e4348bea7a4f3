import Agenda.Broker.Remote
import Agenda.Proofs.Pipeline.Genuine

/-! Notifications stay legible: what is published of an event is handed out as the notification of
that event, by either broker, and never as a message that cannot be decoded. -/
namespace Agenda

/-- At the front of the queue a notification is handed out for good. -/
theorem Queue.take_notification {q : Queue} {n : Notification} {attempts : Nat}
    {rest : List Delivery} (front : q.messages = ⟨n.toBytes, attempts⟩ :: rest) :
    q.take = some ⟨.ok n, [], false, { q with messages := rest }⟩ := by
  simp only [take, front, n.ofBytes_toBytes]

/-- A server's notification is acknowledged, and acknowledgements do not fail. -/
theorem Session.receive_notification (number : Nat) (n : Notification) (s : BrokerServer) :
    (receive ⟨number, n.toBytes⟩ s).1 = .ok n ∧
      (receive ⟨number, n.toBytes⟩ s).2.unacknowledged = s.unacknowledged.erase number := by
  simp only [receive, n.ofBytes_toBytes]
  exact ⟨rfl, rfl⟩

/-- Whatever a cycle is answered, it publishes notifications of events. -/
theorem Dispatch.publishes_notification {d : Dispatch} {log : List Answered}
    (talk : Conversation d log) {payload : Bytes}
    (asked : .produce (.publish payload) ∈ log.map (·.1)) :
    ∃ e, payload = (Notification.ofEvent e).toBytes := by
  induction talk with
  | halted => cases asked
  | @asked d c next a log move _ ih =>
    rcases List.mem_cons.mp asked with now | later
    · cases d with
      | publish e later count =>
        cases move
        cases now
        exact ⟨e, rfl⟩
      | query | openChannel | closeChannel =>
        cases move
        cases now
      | finished => cases move
    · exact ih later

/-- Nothing is logged of a queue that holds notifications only, and nothing else comes out of it. -/
theorem LocalBroker.poll_notifications {b : LocalBroker} {Known : Notification → Prop}
    (legible : ∀ d ∈ b.queue.messages, ∃ n, Known n ∧ d.payload = n.toBytes) (stream : Nat) :
    (b.poll stream).notices = [] ∧
      ∀ item, (b.poll stream).item = some item → ∃ n, Known n ∧ item = .ok n := by
  unfold poll
  by_cases asleep : stream ∈ b.bell.asleep
  · rw [if_pos asleep]
    exact ⟨rfl, fun item found => by cases found⟩
  rw [if_neg asleep]
  cases front : b.queue.messages with
  | nil =>
    rw [Queue.take_eq_none_iff.mpr front]
    exact ⟨rfl, fun item found => by cases found⟩
  | cons d rest =>
    obtain ⟨n, known, payload⟩ := legible d (front ▸ .head _)
    obtain ⟨_, attempts⟩ := d
    subst payload
    rw [Queue.take_notification front]
    refine ⟨rfl, ?_⟩
    rintro item ⟨⟩
    exact ⟨n, known, rfl⟩

/-- **Notifications survive the wire.** Every notification is read back from its bytes as it was,
whatever text and whatever date it holds, so that different ones have different bytes. What a
dispatch cycle publishes, whatever it is answered, are the bytes of an event's notification. The
broker inside the process hands them out once as that notification and does not put them back; a
consumer of a server gives the same and acknowledges it. And in the whole service, however its parts
take turns and fail, a stream never gives anything but notifications of events. -/
theorem notifications_survive_wire :
    (∀ n : Notification, Notification.ofBytes n.toBytes = .ok n) ∧
    (∀ n m : Notification, n.toBytes = m.toBytes → n = m) ∧
    (∀ now interval log, Conversation (Dispatch.start now interval) log → ∀ payload,
      .produce (.publish payload) ∈ log.map (·.1) →
      ∃ e, payload = (Notification.ofEvent e).toBytes ∧
        (∀ (q : Queue) (attempts : Nat) (rest : List Delivery),
          q.messages = ⟨payload, attempts⟩ :: rest →
          q.take = some ⟨.ok (.ofEvent e), [], false, { q with messages := rest }⟩) ∧
        ∀ (number : Nat) (s : BrokerServer),
          (Session.receive ⟨number, payload⟩ s).1 = .ok (.ofEvent e) ∧
          (Session.receive ⟨number, payload⟩ s).2.unacknowledged =
            s.unacknowledged.erase number) ∧
    ∀ (maxDeliver : Int) (acts : List System.Act) (x : Endpoint),
      let s := ((System.new maxDeliver).run acts).service
      (s.poll x).2.1 = [] ∧
        ∀ item, (s.poll x).1 = some item → ∃ e, item = .ok (.ofEvent e) := by
  refine ⟨Notification.ofBytes_toBytes, fun _ _ => Notification.toBytes_injective, ?_, ?_⟩
  · intro now interval log talk payload asked
    obtain ⟨e, rfl⟩ := Dispatch.publishes_notification talk asked
    exact ⟨e, rfl, fun q attempts rest front => Queue.take_notification front,
      fun number s => Session.receive_notification number (.ofEvent e) s⟩
  · intro maxDeliver acts x s
    have sound := ((System.sound_new maxDeliver).run acts).service
    unfold LocalService.poll
    cases x.stream with
    | none => exact ⟨rfl, fun item found => by cases found⟩
    | some stream =>
      obtain ⟨silent, handed⟩ := LocalBroker.poll_notifications sound.queued stream
      refine ⟨silent, ?_⟩
      intro item found
      obtain ⟨n, ⟨e, -, rfl⟩, rfl⟩ := handed item found
      exact ⟨e, rfl⟩

/-! A cycle that publishes all that has to be escaped, and does not get an answer to it. -/

def Event.awkward : Event :=
  ⟨"\"\\\u0007\n", "𝄞é\x7b", .least, .greatest, "", "", .zero⟩

theorem awkward_handed_out :
    let payload := (Notification.ofEvent .awkward).toBytes
    let log : List Answered :=
      [⟨.findByRemindIn (Dispatch.window .zero (.ofSeconds 60)), .ok [.awkward]⟩,
        ⟨.produce .openChannel, .ok ()⟩,
        ⟨.produce (.publish payload), Call.timedOut (.ofSeconds 1) (.produce (.publish payload))⟩,
        ⟨.produce .closeChannel, .ok ()⟩]
    Conversation (Dispatch.start .zero (.ofSeconds 60)) log ∧
      .produce (.publish payload) ∈ log.map (·.1) ∧
      ((Queue.new 5).push payload).take =
        some ⟨.ok (.ofEvent .awkward), [], false, Queue.new 5⟩ := by
  intro payload log
  have talk : Conversation (Dispatch.start .zero (.ofSeconds 60)) log :=
    .asked rfl (.asked rfl (.asked rfl (.asked rfl (.halted rfl))))
  have asked : .produce (.publish payload) ∈ log.map (·.1) := .tail _ (.tail _ (.head _))
  obtain ⟨-, apart, published, -⟩ := notifications_survive_wire
  obtain ⟨e, same, handed, -⟩ := published .zero (.ofSeconds 60) log talk payload asked
  have own : Notification.ofEvent .awkward = .ofEvent e := apart _ _ same
  rw [own]
  exact ⟨talk, asked, handed ((Queue.new 5).push payload) 0 [] rfl⟩

end Agenda
