import Agenda.Broker.Local
import Mathlib.Data.List.Basic

/-! What leaves a queue, and what stays. A message that can be decoded leaves for good once it is at
the front; one that cannot is put back behind all others, or dropped. -/
namespace Agenda

/-- The notification that a payload carries, if it can be decoded. -/
def Notification.read? (payload : Bytes) : Option Notification := (ofBytes payload).toOption

def Notification.isReadable (payload : Bytes) : Bool := (read? payload).isSome

theorem Notification.filterMap_read? (payloads : List Bytes) :
    (payloads.filter isReadable).filterMap read? = payloads.filterMap read? := by
  rw [List.filterMap_filter]
  apply List.filterMap_congr
  intro payload _
  unfold isReadable
  cases read? payload <;> rfl

namespace Delivery

def isReadable (d : Delivery) : Bool := Notification.isReadable d.payload

/-- What is handed to whoever takes the message. -/
def item (d : Delivery) : Item :=
  match Notification.ofBytes d.payload with
  | .ok n => .ok n
  | .error e => .error (.undecodable e)

theorem item_readable {d : Delivery} {n : Notification}
    (decoded : Notification.ofBytes d.payload = .ok n) : d.item = .ok n := by
  simp only [item, decoded]

/-- Only a message that can be decoded gives a notification. -/
theorem item_toOption (d : Delivery) : d.item.toOption = Notification.read? d.payload := by
  unfold item Notification.read?
  cases Notification.ofBytes d.payload <;> rfl

end Delivery

namespace Queue

variable {q : Queue} {t : Taken}

theorem take_eq_none_iff : q.take = none ↔ q.messages = [] := by
  unfold take
  cases q.messages with
  | nil => exact ⟨fun _ => rfl, fun _ => rfl⟩
  | cons d rest =>
    constructor
    · intro nothing
      simp only at nothing
      split at nothing
      · cases nothing
      · split at nothing <;> cases nothing
    · intro nothing
      cases nothing

/-- What becomes of a message that is handed out where `m` deliveries are allowed: what is logged,
and what comes back to the queue. -/
inductive Fate (m : Nat) (d : Delivery) : List Notice → List Delivery → Prop
  | acknowledged (decoded : d.isReadable = true) : Fate m d [] []
  | putBack (undecodable : d.isReadable = false) (allowed : d.attempts + 1 < m) :
    Fate m d [] [⟨d.payload, d.attempts + 1⟩]
  | dropped (undecodable : d.isReadable = false) (spent : m ≤ d.attempts + 1) :
    Fate m d [.messageDropped (d.attempts + 1)] []

theorem Fate.back_length {m : Nat} {d : Delivery} {notices : List Notice} {back : List Delivery}
    (fate : Fate m d notices back) : back.length ≤ 1 := by
  cases fate <;> simp

/-- What comes back is the same message after one more try. -/
theorem Fate.again {m : Nat} {d d' : Delivery} {notices : List Notice} {back : List Delivery}
    (fate : Fate m d notices back) (member : d' ∈ back) : d' = ⟨d.payload, d.attempts + 1⟩ ∧
      notices = [] ∧ d.isReadable = false ∧ d.attempts + 1 < m := by
  cases fate with
  | acknowledged | dropped => cases member
  | putBack undecodable allowed =>
    exact ⟨List.mem_singleton.mp member, rfl, undecodable, allowed⟩

/-- All that taking a message does: it leaves the front, and what its fate says comes back at the
end. -/
theorem take_fate (h : q.take = some t) : ∃ d rest back, q.messages = d :: rest ∧
    t.item = d.item ∧ t.queue.maxDeliver = q.maxDeliver ∧ Fate q.maxDeliver d t.notices back ∧
    t.returned = !back.isEmpty ∧ t.queue.messages = rest ++ back := by
  unfold take at h
  cases front : q.messages with
  | nil =>
    rw [front] at h
    cases h
  | cons d rest =>
    simp only [front] at h
    cases decoded : Notification.ofBytes d.payload with
    | ok n =>
      have readable : d.isReadable = true := by
        simp only [Delivery.isReadable, Notification.isReadable, Notification.read?, decoded]
        rfl
      simp only [decoded, Option.some.injEq] at h
      subst h
      exact ⟨d, rest, [], rfl, (Delivery.item_readable decoded).symm, rfl, .acknowledged readable,
        rfl, (List.append_nil rest).symm⟩
    | error e =>
      have unreadable : d.isReadable = false := by
        simp only [Delivery.isReadable, Notification.isReadable, Notification.read?, decoded]
        rfl
      have handed : .error (.undecodable e) = d.item := by simp only [Delivery.item, decoded]
      simp only [decoded] at h
      by_cases spent : q.maxDeliver ≤ d.attempts + 1
      · rw [if_pos spent, Option.some.injEq] at h
        subst h
        exact ⟨d, rest, [], rfl, handed, rfl, .dropped unreadable spent, rfl,
          (List.append_nil rest).symm⟩
      · rw [if_neg spent, Option.some.injEq] at h
        subst h
        exact ⟨d, rest, [⟨d.payload, d.attempts + 1⟩], rfl, handed, rfl,
          .putBack unreadable (Nat.lt_of_not_le spent), rfl, rfl⟩

/-- A message that is taken leaves the front and, if it cannot be decoded and was not delivered too
often, comes back at the end. -/
theorem take_cases (h : q.take = some t) : ∃ d rest, q.messages = d :: rest ∧ t.item = d.item ∧
    t.queue.maxDeliver = q.maxDeliver ∧
    (t.returned = false ∧ t.queue.messages = rest ∨
      t.returned = true ∧ d.isReadable = false ∧ d.attempts + 1 < q.maxDeliver ∧
        t.queue.messages = rest ++ [⟨d.payload, d.attempts + 1⟩]) := by
  obtain ⟨d, rest, back, front, handed, bound, fate, returned, after⟩ := take_fate h
  refine ⟨d, rest, front, handed, bound, ?_⟩
  generalize t.notices = notices at fate
  cases fate with
  | acknowledged | dropped =>
    rw [List.append_nil] at after
    exact .inl ⟨returned, after⟩
  | putBack unreadable allowed => exact .inr ⟨returned, unreadable, allowed, after⟩

/-- Taking a message brings in no payload. -/
theorem mem_of_take (h : q.take = some t) {m : Delivery} (member : m ∈ t.queue.messages) :
    ∃ d ∈ q.messages, m.payload = d.payload := by
  obtain ⟨d, rest, front, -, -, ⟨-, gone⟩ | ⟨-, -, -, back⟩⟩ := take_cases h
  · exact ⟨m, front ▸ .tail _ (gone ▸ member), rfl⟩
  · rw [back] at member
    rcases List.mem_append.mp member with old | again
    · exact ⟨m, front ▸ .tail _ old, rfl⟩
    · rw [List.mem_singleton] at again
      refine ⟨d, front ▸ .head _, ?_⟩
      rw [again]

end Queue

namespace LocalBroker

variable (b : LocalBroker) (stream : Nat)

/-- A look at a stream takes the message at the front, or it leaves the queue alone. The latter only
happens if the stream sleeps or there is no message. -/
theorem poll_cases :
    ((b.poll stream).item = none ∧ (b.poll stream).broker.queue = b.queue ∧
      (stream ∈ b.bell.asleep ∨ b.queue.messages = [])) ∨
    stream ∉ b.bell.asleep ∧ ∃ t, b.queue.take = some t ∧ (b.poll stream).item = some t.item ∧
      (b.poll stream).broker.queue = t.queue := by
  unfold poll
  by_cases asleep : stream ∈ b.bell.asleep
  · rw [if_pos asleep]
    exact .inl ⟨rfl, rfl, .inl asleep⟩
  · rw [if_neg asleep]
    cases taken : b.queue.take with
    | none => exact .inl ⟨rfl, rfl, .inr (Queue.take_eq_none_iff.mp taken)⟩
    | some t => exact .inr ⟨asleep, t, rfl, rfl, rfl⟩

/-- What a look at a stream finds, in full: nothing, which leaves the queue alone, or the message at
the front and its fate. -/
theorem poll_fate :
    ((b.poll stream).item = none ∧ (b.poll stream).broker.queue = b.queue) ∨
    ∃ d rest back, b.queue.messages = d :: rest ∧ (b.poll stream).item = some d.item ∧
      (b.poll stream).broker.queue.maxDeliver = b.queue.maxDeliver ∧
      Queue.Fate b.queue.maxDeliver d (b.poll stream).notices back ∧
      (b.poll stream).broker.queue.messages = rest ++ back := by
  unfold poll
  by_cases asleep : stream ∈ b.bell.asleep
  · rw [if_pos asleep]
    exact .inl ⟨rfl, rfl⟩
  · rw [if_neg asleep]
    cases taken : b.queue.take with
    | none => exact .inl ⟨rfl, rfl⟩
    | some t =>
      obtain ⟨d, rest, back, front, handed, bound, fate, -, after⟩ := Queue.take_fate taken
      exact .inr ⟨d, rest, back, front, congrArg some handed, bound, fate, after⟩

end LocalBroker
end Agenda
