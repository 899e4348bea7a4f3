import Mathlib
import Agenda.Proofs.Conversation
import Agenda.Proofs.Service
import Agenda.Proofs.Wire
import Agenda.Sender

/-! One sender from its start to its end, while others use the same service. What it takes from the
queue counts as acknowledged as soon as it is decoded, and from there on nothing stops the sender
before it has tried to record it. -/
namespace Agenda

/-- The notification that a call records. -/
def Answered.recorded? : Answered → Option Notification
  | ⟨.record n, _⟩ => some n
  | _ => none

/-- The notification of a call that the storage has dealt with: it has stored the notification, or it
has one of the same event already. -/
def Answered.settled? : Answered → Option Notification
  | ⟨.record _, .error (.backend _)⟩ => none
  | x => x.recorded?

/-- The notification that a sender has taken and not yet recorded. -/
def Sender.pending? : Sender → Option Notification
  | .record n => some n
  | _ => none

/-- Whether a sender has closed its channel. -/
def Sender.hasClosed : Sender → Bool
  | .closeConnection .. | .finished _ => true
  | _ => false

/-- A sender and the service it uses. -/
structure Reception where
  service : LocalService
  endpoint : Endpoint
  sender : Sender
  /-- The payloads that its stream has taken from the queue, the first first. -/
  taken : List Bytes
  /-- Its calls with their answers, the first first. -/
  log : List Answered

namespace Reception

inductive Act
  /-- The sender's call is carried out. -/
  | call
  /-- The sender's call fails, and nothing is carried out. -/
  | fail (cause : String)
  /-- The sender looks at its stream. -/
  | look
  /-- The broker ends the delivery. -/
  | ended
  /-- The sender, which may have been told to stop long before, notices it while it listens. -/
  | cancelled
  /-- Others use the service. Only the sender records notifications. -/
  | others (service : LocalService)

def new (service : LocalService) (endpoint : Endpoint) : Reception :=
  ⟨service, endpoint, .start, [], []⟩

/-- The sender makes its next call. -/
def ask (x : Reception)
    (serve : LocalService → Endpoint → (c : Call) → c.Answer × Endpoint × LocalService) :
    Reception :=
  match Machine.move x.sender with
  | .ask c next =>
    let (a, endpoint, service) := serve x.service x.endpoint c
    { x with service, endpoint, sender := (next a).1, log := x.log ++ [⟨c, a⟩] }
  | _ => x

def failing (cause : String) (s : LocalService) (endpoint : Endpoint) (c : Call) :
    c.Answer × Endpoint × LocalService :=
  (c.failed (.backend cause) (.backend cause), endpoint, s)

/-- A sender that listens looks into the queue. -/
def look (x : Reception) : Reception :=
  match Machine.move x.sender with
  | .listen next =>
    let (item, _, service) := x.service.poll x.endpoint
    match item with
    | none => { x with service }
    | some item =>
      { x with
        service
        sender := (next (.delivery item)).1
        taken := x.taken ++ (x.service.broker.queue.messages.take 1).map (·.payload) }
  | _ => x

/-- A sender that listens stops doing so, and gives its stream up. -/
def stop (x : Reception) (signal : Signal) : Reception :=
  match Machine.move x.sender with
  | .listen next =>
    let (endpoint, service) := x.service.dropStream x.endpoint
    { x with service, endpoint, sender := (next signal).1 }
  | _ => x

def step (x : Reception) : Act → Reception
  | .call => x.ask LocalService.answer
  | .fail cause => x.ask (failing cause)
  | .look => x.look
  | .ended => x.stop .ended
  | .cancelled => x.stop .cancelled
  | .others service =>
    { x with service := { service with notifications := x.service.notifications } }

def run (x : Reception) (acts : List Act) : Reception := acts.foldl step x

/-- The notifications that were passed to the storage, the first first. -/
def recorded (log : List Answered) : List Notification := log.filterMap Answered.recorded?

/-- Of the notifications of an event the first one that the storage has dealt with. -/
def firstSettled (log : List Answered) (id : String) : Option Notification :=
  (log.filterMap Answered.settled?).find? (·.eventId = id)

/-! ## What a step does -/

/-- What one act comes to. -/
inductive Change (x y : Reception) : Prop
  /-- Others act, or the sender waits or stops. -/
  | idle (pending : y.sender.pending? = x.sender.pending?)
    (closed : x.sender.hasClosed = true → y.sender.hasClosed = true) (taken : y.taken = x.taken)
    (log : y.log = x.log) (notifications : y.service.notifications = x.service.notifications)
  /-- The sender calls the broker. -/
  | consume (call : ConsumerCall) (a : Except BrokerError Unit)
    (before : x.sender.pending? = none) (after : y.sender.pending? = none)
    (closed : x.sender.hasClosed = true ∨ call = .closeChannel → y.sender.hasClosed = true)
    (taken : y.taken = x.taken) (log : y.log = x.log ++ [⟨.consume call, a⟩])
    (notifications : y.service.notifications = x.service.notifications)
  | take (d : Delivery) (before : x.sender = .listening)
    (after : y.sender.pending? = Notification.read? d.payload)
    (taken : y.taken = x.taken ++ [d.payload]) (log : y.log = x.log)
    (notifications : y.service.notifications = x.service.notifications)
  | record (n : Notification) (a : Except StorageError Unit) (before : x.sender = .record n)
    (after : y.sender = .listening) (taken : y.taken = x.taken)
    (log : y.log = x.log ++ [⟨.record n, a⟩])
    (notifications :
      (∃ cause, a = .error (.backend cause)) ∧ y.service.notifications = x.service.notifications ∨
        NotificationStore.Filing n x.service.notifications a y.service.notifications)

end Reception

namespace Sender

variable {s : Sender}

/-- A sender asks the broker for something, or the storage to record what it has taken. -/
theorem asks {c : Call} {next : c.Answer → Sender × List Notice}
    (h : Machine.move s = .ask c next) :
    (∃ call, c = .consume call) ∨ ∃ n, c = .record n := by
  cases s <;> cases h <;> first | exact .inl ⟨_, rfl⟩ | exact .inr ⟨_, rfl⟩

theorem after_consume {call : ConsumerCall}
    {next : Except BrokerError Unit → Sender × List Notice}
    (h : Machine.move s = .ask (.consume call) next) : s.pending? = none ∧
      ∀ a, (next a).1.pending? = none ∧
        (s.hasClosed = true ∨ call = .closeChannel → (next a).1.hasClosed = true) := by
  cases s <;> cases h <;> refine ⟨rfl, ?_⟩ <;> rintro (_ | _) <;>
    simp [required, pending?, hasClosed]

theorem after_record {n : Notification} {next : Except StorageError Unit → Sender × List Notice}
    (h : Machine.move s = .ask (.record n) next) : s = .record n ∧ ∀ a, (next a).1 = .listening := by
  cases s <;> cases h
  refine ⟨rfl, ?_⟩
  rintro (error | _)
  · cases error <;> rfl
  · rfl

/-- Only a sender that listens hears anything, and what it takes it goes on to record. -/
theorem after_signal {next : Signal → Sender × List Notice} (h : Machine.move s = .listen next) :
    s = .listening ∧ (∀ item, (next (.delivery item)).1.pending? = item.toOption) ∧
      (next .ended).1.pending? = none ∧ (next .cancelled).1.pending? = none := by
  cases s <;> cases h
  refine ⟨rfl, ?_, rfl, rfl⟩
  rintro (_ | _) <;> rfl

end Sender

namespace Reception

variable (x : Reception)

/-- A call is one of the broker, which does not touch the notifications, or one that records. -/
theorem ask_change
    {serve : LocalService → Endpoint → (c : Call) → c.Answer × Endpoint × LocalService}
    (consume : ∀ call, (serve x.service x.endpoint (.consume call)).2.2.notifications =
      x.service.notifications)
    (record : ∀ n, let told := serve x.service x.endpoint (.record n)
      (∃ cause, told.1 = .error (.backend cause)) ∧
          told.2.2.notifications = x.service.notifications ∨
        NotificationStore.Filing n x.service.notifications told.1 told.2.2.notifications) :
    Change x (x.ask serve) := by
  unfold ask
  cases move : Machine.move x.sender with
  | halt | listen => exact .idle rfl id rfl rfl rfl
  | ask c next =>
    rcases Sender.asks move with ⟨call, rfl⟩ | ⟨n, rfl⟩
    · obtain ⟨before, after⟩ := Sender.after_consume move
      exact .consume call _ before (after _).1 (after _).2 rfl rfl (consume call)
    · obtain ⟨before, after⟩ := Sender.after_record move
      exact .record n _ before (after _) rfl rfl (record n)

theorem look_change : Change x x.look := by
  unfold look
  cases move : Machine.move x.sender with
  | halt | ask => exact .idle rfl id rfl rfl rfl
  | listen next =>
    obtain ⟨listening, delivered, -⟩ := Sender.after_signal move
    obtain ⟨broker, service, ⟨nothing, -⟩ | ⟨t, next_taken, item, -⟩⟩ :=
      x.service.poll_broker x.endpoint
    · simp only [nothing]
      refine .idle rfl id rfl rfl ?_
      rw [service]
    · obtain ⟨d, rest, front, handed, -⟩ := Queue.take_cases next_taken
      simp only [item]
      refine .take d listening ?_ ?_ rfl ?_
      · rw [delivered, handed, d.item_toOption]
      · simp only [front, List.take_succ_cons, List.take_zero, List.map_cons, List.map_nil]
      · rw [service]

theorem stop_change {signal : Signal} (last : signal = .ended ∨ signal = .cancelled) :
    Change x (x.stop signal) := by
  unfold stop
  cases move : Machine.move x.sender with
  | halt | ask => exact .idle rfl id rfl rfl rfl
  | listen next =>
    obtain ⟨listening, -, ended, cancelled⟩ := Sender.after_signal move
    obtain ⟨broker, -, service⟩ := x.service.dropStream_broker x.endpoint
    refine .idle ?_ ?_ rfl rfl ?_
    · rw [listening]
      rcases last with rfl | rfl
      · exact ended
      · exact cancelled
    · intro closed
      rw [listening] at closed
      cases closed
    · simp only [service]

theorem step_change (a : Act) : Change x (x.step a) := by
  cases a with
  | call =>
    change Change x (x.ask LocalService.answer)
    apply x.ask_change
    · intro call
      obtain ⟨broker, -, after⟩ := x.service.consume_broker x.endpoint call
      change (x.service.consume x.endpoint call).2.2.notifications = _
      rw [after]
    · intro n
      obtain ⟨notifications, after, filing⟩ := x.service.answer_filing x.endpoint n
      simp only [after]
      exact .inr filing
  | fail cause =>
    change Change x (x.ask (failing cause))
    apply x.ask_change
    · exact fun _ => rfl
    · exact fun _ => .inl ⟨⟨cause, rfl⟩, rfl⟩
  | look => exact x.look_change
  | ended => exact x.stop_change (.inl rfl)
  | cancelled => exact x.stop_change (.inr rfl)
  | others service => exact .idle rfl id rfl rfl rfl

/-! ## What holds throughout -/

theorem recorded_append (log : List Answered) (x : Answered) :
    recorded (log ++ [x]) = recorded log ++ x.recorded?.toList := by
  unfold recorded
  rw [List.filterMap_append]
  cases h : x.recorded? <;> simp [h]

theorem firstSettled_none {x : Answered} (passed : x.settled? = none) (log : List Answered)
    (id : String) : firstSettled (log ++ [x]) id = firstSettled log id := by
  unfold firstSettled
  rw [List.filterMap_append, List.filterMap_cons_none passed, List.filterMap_nil, List.append_nil]

theorem firstSettled_some {x : Answered} {n : Notification} (settled : x.settled? = some n)
    (log : List Answered) (id : String) : firstSettled (log ++ [x]) id =
      (firstSettled log id).or (if n.eventId = id then some n else none) := by
  have last : [n].find? (·.eventId = id) = if n.eventId = id then some n else none := by
    by_cases own : n.eventId = id <;> simp [own]
  unfold firstSettled
  rw [List.filterMap_append, List.find?_append, List.filterMap_cons_some settled,
    List.filterMap_nil, last]

/-- A call that is in a longer log is the last one, or it was there before. -/
theorem split_append {log before after : List Answered} {x c : Answered}
    (h : log ++ [x] = before ++ c :: after) :
    (c = x ∧ after = []) ∨ ∃ earlier, after = earlier ++ [x] ∧ log = before ++ c :: earlier := by
  rcases List.eq_nil_or_concat after with rfl | ⟨earlier, last, rfl⟩
  · have same := List.append_inj' h rfl
    exact .inl ⟨(List.singleton_inj.mp same.2).symm, rfl⟩
  · rw [List.concat_eq_append, ← List.cons_append, ← List.append_assoc] at h
    obtain ⟨same, last_same⟩ := List.append_inj' h rfl
    rw [← List.singleton_inj.mp last_same]
    exact .inr ⟨earlier, List.concat_eq_append, same⟩

/-- What holds of a sender in every state, where the notifications were `start` in the beginning. -/
structure Orderly (start : NotificationStore) (x : Reception) : Prop where
  /-- What was taken and decoded was recorded, all but the last if its turn has not come yet. -/
  recorded : recorded x.log ++ x.sender.pending?.toList = x.taken.filterMap Notification.read?
  /-- Nothing is recorded after the channel was closed. -/
  sealed : ∀ before a after, x.log = before ++ ⟨.consume .closeChannel, a⟩ :: after →
    x.sender.hasClosed = true ∧ Reception.recorded after = []
  /-- The first notification that the storage has dealt with is the one that is stored. -/
  filed : ∀ id, x.service.notifications.find? id = (start.find? id).or (firstSettled x.log id)

variable {x} {y : Reception} {start : NotificationStore}

theorem Orderly.consume (h : x.Orderly start) {call : ConsumerCall} {a : Except BrokerError Unit}
    (before : x.sender.pending? = none) (after : y.sender.pending? = none)
    (closed : x.sender.hasClosed = true ∨ call = .closeChannel → y.sender.hasClosed = true)
    (taken : y.taken = x.taken) (log : y.log = x.log ++ [⟨.consume call, a⟩])
    (notifications : y.service.notifications = x.service.notifications) : y.Orderly start where
  recorded := by
    rw [log, recorded_append, taken, ← h.recorded, before, after]
    exact List.append_nil _
  sealed := by
    intro ahead b behind split
    rw [log] at split
    rcases split_append split with ⟨same, rfl⟩ | ⟨earlier, rfl, old⟩
    · cases same
      exact ⟨closed (.inr rfl), rfl⟩
    · obtain ⟨closed_before, none_after⟩ := h.sealed ahead b earlier old
      refine ⟨closed (.inl closed_before), ?_⟩
      rw [recorded_append, none_after]
      rfl
  filed := by
    intro id
    rw [notifications, log, firstSettled_none rfl, h.filed id]

theorem Orderly.record (h : x.Orderly start) {n : Notification} {a : Except StorageError Unit}
    (before : x.sender = .record n) (after : y.sender = .listening) (taken : y.taken = x.taken)
    (log : y.log = x.log ++ [⟨.record n, a⟩])
    (notifications :
      (∃ cause, a = .error (.backend cause)) ∧ y.service.notifications = x.service.notifications ∨
        NotificationStore.Filing n x.service.notifications a y.service.notifications) :
    y.Orderly start where
  recorded := by
    rw [log, recorded_append, taken, ← h.recorded, before, after]
    exact List.append_nil _
  sealed := by
    intro ahead b behind split
    rw [log] at split
    rcases split_append split with ⟨same, rfl⟩ | ⟨earlier, rfl, old⟩
    · cases same
    · obtain ⟨closed, -⟩ := h.sealed ahead b earlier old
      rw [before] at closed
      cases closed
  filed := by
    intro id
    rw [log]
    rcases notifications with ⟨⟨cause, rfl⟩, same⟩ | filing
    · rw [same, firstSettled_none rfl, h.filed id]
    · have settled : Answered.settled? ⟨.record n, a⟩ = some n := by
        rcases filing.told with rfl | rfl <;> rfl
      rw [filing.find? id, firstSettled_some settled, h.filed id, Option.or_assoc]

theorem Orderly.step (h : x.Orderly start) (a : Act) : (x.step a).Orderly start := by
  cases x.step_change a with
  | idle pending closed taken log notifications =>
    refine ⟨?_, ?_, ?_⟩
    · rw [log, taken, pending]
      exact h.recorded
    · intro before b after split
      obtain ⟨closed_before, none_after⟩ := h.sealed before b after (log ▸ split)
      exact ⟨closed closed_before, none_after⟩
    · rw [notifications, log]
      exact h.filed
  | consume call b before after closed taken log notifications =>
    exact h.consume before after closed taken log notifications
  | take d before after taken log notifications =>
    refine ⟨?_, ?_, ?_⟩
    · have all := h.recorded
      rw [before] at all
      rw [log, taken, after, List.filterMap_append, ← all]
      cases read : Notification.read? d.payload <;> simp [Sender.pending?, read]
    · intro ahead b behind split
      obtain ⟨closed, -⟩ := h.sealed ahead b behind (log ▸ split)
      rw [before] at closed
      cases closed
    · rw [notifications, log]
      exact h.filed
  | record n b before after taken log notifications =>
    exact h.record before after taken log notifications

theorem Orderly.run (h : x.Orderly start) (acts : List Act) : (x.run acts).Orderly start := by
  induction acts generalizing x with
  | nil => exact h
  | cons a later ih => exact ih (h.step a)

theorem orderly_new (service : LocalService) (endpoint : Endpoint) :
    (new service endpoint).Orderly service.notifications where
  recorded := rfl
  sealed := fun before _ after split => by
    cases before <;> cases split
  filed := fun _ => (Option.or_none).symm

/-- A notification that is stored stays. -/
theorem find?_step {id : String} {n : Notification}
    (stored : x.service.notifications.find? id = some n) (a : Act) :
    (x.step a).service.notifications.find? id = some n := by
  cases x.step_change a with
  | idle _ _ _ _ same | consume _ _ _ _ _ _ _ same | take _ _ _ _ _ same => rw [same, stored]
  | record m b _ _ _ _ notifications =>
    rcases notifications with ⟨-, same⟩ | filing
    · rw [same, stored]
    · rw [filing.find? id, stored, Option.some_or]

theorem find?_run {id : String} {n : Notification}
    (stored : x.service.notifications.find? id = some n) (later : List Act) :
    (x.run later).service.notifications.find? id = some n := by
  induction later generalizing x with
  | nil => exact stored
  | cons a later ih => exact ih (find?_step stored a)

/-- A notification of an event that has one already leaves all as it is, whatever it says. -/
theorem step_known {n m : Notification} (recording : x.sender = .record n)
    (known : x.service.notifications.find? n.eventId = some m) (a : Act) :
    (x.step a).service.notifications = x.service.notifications := by
  cases x.step_change a with
  | idle _ _ _ _ same | consume _ _ _ _ _ _ _ same | take _ _ _ _ _ same => exact same
  | record n' b before _ _ _ notifications =>
    rw [recording] at before
    cases before
    rcases notifications with ⟨-, same⟩ | filing
    · exact same
    · generalize x.service.notifications = old at filing known ⊢
      generalize (x.step a).service.notifications = new at filing ⊢
      cases filing with
      | stored vacant =>
        rw [known] at vacant
        cases vacant
      | known => rfl

/-- **A sender loses nothing that it has acknowledged, and the first notification of an event
wins.** Whatever is published before and meanwhile, whichever calls fail and whenever the sender is
stopped, it passes to the storage what its stream has taken and could decode, each once and in the
order of the queue; only the last may still be on its way. Once the channel is closed all of it has
been passed on, and no more is. What is stored under an event is the first of its notifications that
the storage has dealt with. It stays, and notifications of the same event that come later change
nothing. -/
theorem acknowledged_recorded (service : LocalService) (endpoint : Endpoint) (acts : List Act) :
    let x := (new service endpoint).run acts
    recorded x.log ++ x.sender.pending?.toList = x.taken.filterMap Notification.read? ∧
    (∀ before a after, x.log = before ++ ⟨.consume .closeChannel, a⟩ :: after →
      recorded before = x.taken.filterMap Notification.read? ∧ recorded after = []) ∧
    (∀ id, x.service.notifications.find? id =
      (service.notifications.find? id).or (firstSettled x.log id)) ∧
    (∀ id n, x.service.notifications.find? id = some n →
      ∀ later, (x.run later).service.notifications.find? id = some n) ∧
    ∀ n m, x.sender = .record n → x.service.notifications.find? n.eventId = some m →
      ∀ a, (x.step a).service.notifications = x.service.notifications := by
  intro x
  have orderly : x.Orderly service.notifications := (orderly_new service endpoint).run acts
  refine ⟨orderly.recorded, ?_, orderly.filed, fun _ _ => find?_run, fun _ _ => step_known⟩
  intro before a after split
  obtain ⟨closed, none_after⟩ := orderly.sealed before a after split
  refine ⟨?_, none_after⟩
  have idle : x.sender.pending? = none := by
    cases state : x.sender <;> rw [state] at closed <;> first | rfl | cases closed
  have all := orderly.recorded
  rw [idle, Option.toList_none, List.append_nil, split] at all
  rw [← all]
  simp only [recorded, List.filterMap_append, List.filterMap_cons] at none_after ⊢
  rw [none_after]
  exact (List.append_nil _).symm

def rehearsal : Notification := ⟨"e1", "Rehearsal", .zero, "ann"⟩

def moved : Notification := { rehearsal with title := "Rehearsal, moved" }

/-- Three notifications of one event wait, of which the second says something else. -/
def crowded : LocalService :=
  { LocalService.new 5 with
    broker := (((LocalBroker.new 5).publish rehearsal.toBytes).publish moved.toBytes).publish
      rehearsal.toBytes }

/-- The storage fails at first, and the sender is stopped while it records the third. -/
def interrupted : List Act :=
  [.call, .call, .call, .look, .fail "disk full", .look, .call, .look, .cancelled, .call, .cancelled,
    .call, .call]

/-- The second notification is stored, as the first could not be, and the third changes nothing. -/
theorem moved_kept :
    let x := (new crowded .new).run interrupted
    recorded x.log = [rehearsal, moved, rehearsal] ∧
      x.service.notifications.find? "e1" = some moved ∧
      ∀ later, (x.run later).service.notifications.find? "e1" = some moved := by
  obtain ⟨all, -, filed, stays, -⟩ := acknowledged_recorded crowded .new interrupted
  have first : firstSettled ((new crowded .new).run interrupted).log "e1" = some moved := by cbv
  have stored := filed "e1"
  rw [first] at stored
  refine ⟨?_, stored, stays "e1" moved stored⟩
  have taken : ((new crowded .new).run interrupted).taken =
      [rehearsal.toBytes, moved.toBytes, rehearsal.toBytes] := by cbv
  have idle : ((new crowded .new).run interrupted).sender.pending? = none := by cbv
  have read : ∀ n : Notification, Notification.read? n.toBytes = some n := by
    intro n
    rw [Notification.read?, Notification.ofBytes_toBytes]
    rfl
  rw [idle, taken] at all
  simpa [read] using all

end Reception
end Agenda
