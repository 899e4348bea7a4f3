import Agenda.Broker.Remote
import Agenda.Proofs.Service
import Agenda.Proofs.Storage.History

/-! The protocol of channels and sessions that both brokers follow: what each call gives is decided
by where the channel stands and, with a server, by whether the server grants what it is asked. -/
namespace Agenda

/-! ## Calls one after the other -/

/-- A call with what it gave, and with what is shared with others before and after it. -/
structure MadeCall (ε γ : Type) where
  before : ε
  call : γ
  result : Except BrokerError Unit
  after : ε

section Calls

variable {σ ε γ : Type}

/-- Makes calls one after the other. In between others may do anything to what is shared. -/
def makeCalls (serve : σ → ε → γ → Except BrokerError Unit × σ × ε) :
    σ → List (ε × γ) → List (MadeCall ε γ) × σ
  | x, [] => ([], x)
  | x, (shared, call) :: later =>
    let (result, x, after) := serve x shared call
    let (passed, last) := makeCalls serve x later
    (⟨shared, call, result, after⟩ :: passed, last)

variable {serve : σ → ε → γ → Except BrokerError Unit × σ × ε}

theorem makeCalls_concat (x : σ) (turns : List (ε × γ)) (shared : ε) (call : γ) :
    let before := makeCalls serve x turns
    let given := serve before.2 shared call
    makeCalls serve x (turns ++ [(shared, call)]) =
      (before.1 ++ [⟨shared, call, given.1, given.2.2⟩], given.2.1) := by
  induction turns generalizing x with
  | nil => rfl
  | cons t later ih => simp only [List.cons_append, makeCalls, ih]

end Calls

def ConsumerCall.isClosing : ConsumerCall → Bool
  | .closeChannel | .closeConnection => true
  | _ => false

def ProducerCall.isClosing : ProducerCall → Bool
  | .closeChannel | .closeConnection => true
  | _ => false

def LocalService.serveConsumer (x : Endpoint) (s : LocalService) (call : ConsumerCall) :
    Except BrokerError Unit × Endpoint × LocalService :=
  s.consume x call

def LocalService.serveProducer (x : Endpoint) (s : LocalService) (call : ProducerCall) :
    Except BrokerError Unit × Endpoint × LocalService :=
  s.produce x call

def BrokerServer.serveConsumer (x : RemoteListener) (s : BrokerServer) (call : ConsumerCall) :
    Except BrokerError Unit × RemoteListener × BrokerServer :=
  let reply := x.call s call
  (reply.result, reply.caller, reply.server)

def BrokerServer.serveProducer (p : RemoteProducer) (s : BrokerServer) (call : ProducerCall) :
    Except BrokerError Unit × RemoteProducer × BrokerServer :=
  let reply := p.call s call
  (reply.result, reply.caller, reply.server)

/-! ## The protocol of a consumer -/

/-- Where a consumer stands. -/
inductive Phase
  | closed
  /-- The channel is open, and there was no session since. -/
  | idle
  /-- The session waits to be taken. -/
  | ready
  | taken
deriving DecidableEq

namespace Phase

def isOpen : Phase → Bool
  | .closed => false
  | .idle | .ready | .taken => true

def consuming : Phase → Bool
  | .closed | .idle => false
  | .ready | .taken => true

def holds : Phase → Bool
  | .ready => true
  | .closed | .idle | .taken => false

/-- What comes of a request. -/
def reply (granted : Bool) : Except BrokerError Unit :=
  if granted then .ok () else .error Remote.refusal

/-- What a call gives, and where the consumer stands after it. What the call asks of a server is
granted or not. -/
def next (granted : Bool) : Phase → ConsumerCall → Except BrokerError Unit × Phase
  | .closed, .openChannel => (reply granted, if granted then .idle else .closed)
  | p, .openChannel => (reply granted, p)
  | .closed, .beginConsume => (.error .channelNotOpen, .closed)
  | .idle, .beginConsume => (reply granted, if granted then .ready else .idle)
  | p, .beginConsume => (.error .alreadyConsuming, p)
  | .closed, .receive => (.error .channelNotOpen, .closed)
  | .ready, .receive => (.ok (), .taken)
  | p, .receive => (.error .notConsuming, p)
  | _, .closeChannel => (.ok (), .closed)
  | _, .closeConnection => (reply granted, .closed)

/-- What one call after the other gives. -/
def results : Phase → List (Bool × ConsumerCall) → List (Except BrokerError Unit)
  | _, [] => []
  | p, (granted, call) :: later => (p.next granted call).1 :: (p.next granted call).2.results later

end Phase

/-! ## What a server grants -/

namespace Remote

/-- The server has the stream, or it makes it. -/
def hasStream (c : BrokerConfig) (s : BrokerServer) : Bool :=
  (findStream c s).1 ||
    isCreatable c.stream && ((findStream c s).2.ask (.streamCreate c.stream c.subject)).1

/-- The server has the durable consumer, or it makes it. -/
def hasConsumer (c : BrokerConfig) (s : BrokerServer) : Bool :=
  let (found, s) := s.ask (.consumerInfo c.stream c.consumer)
  found || (s.ask (.consumerCreate c.stream c.consumer c.subject c.maxDeliver)).1

/-- Whether everything that a call asks for is granted. A look-up that fails is made good by what is
then made. -/
def grants (c : BrokerConfig) (s : BrokerServer) : ConsumerCall → Bool
  | .openChannel => hasStream c s
  | .beginConsume => hasConsumer c s && s.accepts .subscribe
  | .closeConnection => s.accepts .flush
  | .receive | .closeChannel => true

theorem declareStream_result (c : BrokerConfig) (s : BrokerServer) :
    (declareStream c s).result = Phase.reply (hasStream c s) := by
  unfold declareStream hasStream
  rcases findStream c s with ⟨found, s⟩
  cases found with
  | true => rfl
  | false => cases isCreatable c.stream <;> rfl

theorem declareConsumer_result (c : BrokerConfig) (s : BrokerServer) :
    (declareConsumer c s).result = Phase.reply (hasConsumer c s) := by
  unfold declareConsumer hasConsumer
  rcases s.ask (.consumerInfo c.stream c.consumer) with ⟨found, s⟩
  cases found <;> rfl

/-- No request makes others fail. -/
theorem perform_failing {s after : BrokerServer} {r : ServerRequest}
    (done : s.perform r = some after) : after.failing = s.failing := by
  cases r with
  | streamInfo | consumerInfo =>
    obtain ⟨_, _, rfl⟩ := Option.map_eq_some_iff.mp done
    rfl
  | streamCreate | consumerCreate | acknowledge =>
    cases done
    rfl
  | publish subject payload =>
    simp only [BrokerServer.perform] at done
    split at done <;> cases done
    rfl

theorem ask_accepts (s : BrokerServer) (r : ServerRequest) (kind : RequestKind) :
    (s.ask r).2.accepts kind = s.accepts kind := by
  have same : (s.ask r).2.failing = s.failing := by
    simp only [BrokerServer.ask]
    split
    · rfl
    · split
      · rfl
      · rename_i done
        exact (perform_failing done : _ = _)
  simp only [BrokerServer.accepts, same]

theorem declareConsumer_accepts (c : BrokerConfig) (s : BrokerServer) (kind : RequestKind) :
    (declareConsumer c s).server.accepts kind = s.accepts kind := by
  have looked := ask_accepts s (.consumerInfo c.stream c.consumer) kind
  unfold declareConsumer
  rcases asked : s.ask (.consumerInfo c.stream c.consumer) with ⟨found, t⟩
  rw [asked] at looked
  cases found with
  | true => exact looked
  | false => exact (ask_accepts t _ kind).trans looked

end Remote

namespace RemoteListener

variable (x : RemoteListener) (s : BrokerServer)

theorem call_openChannel :
    (x.call s .openChannel).result = Phase.reply (Remote.hasStream x.consumer.config s) ∧
    (x.call s .openChannel).caller =
      if Remote.hasStream x.consumer.config s then
        x.withConsumer { x.consumer with isOpen := true } else x := by
  simp only [call, RemoteConsumer.openChannel, Remote.Outcome.reply, Remote.declareStream_result]
  cases Remote.hasStream x.consumer.config s <;> exact ⟨rfl, rfl⟩

variable {x} in
theorem call_beginConsume (isOpen : x.consumer.isOpen = true)
    (fresh : x.consumer.consuming = false) :
    (x.call s .beginConsume).result =
      Phase.reply (Remote.grants x.consumer.config s .beginConsume) ∧
    ∃ session, (x.call s .beginConsume).caller =
      if Remote.grants x.consumer.config s .beginConsume then
        x.withConsumer { x.consumer with consuming := true, held := some session } else x := by
  simp only [call, RemoteConsumer.beginConsume, isOpen, fresh, Remote.Outcome.reply,
    Remote.declareConsumer_result, Remote.declareConsumer_accepts, Remote.grants]
  cases Remote.hasConsumer x.consumer.config s <;> cases s.accepts .subscribe <;>
    exact ⟨rfl, ⟨(Remote.declareConsumer x.consumer.config s).server.generation, false⟩, rfl⟩

end RemoteListener

/-! ## Both consumers follow the protocol -/

/-- How the parts of a consumer tell where it stands. -/
structure Phase.Describes {α : Type} (p : Phase) (isOpen consuming : Bool) (held : Option α) :
    Prop where
  isOpen : isOpen = p.isOpen
  consuming : consuming = p.consuming
  holds : held.isSome = p.holds

def LocalConsumer.Stands (c : LocalConsumer) (p : Phase) : Prop :=
  p.Describes c.isOpen c.consuming c.held

def RemoteConsumer.Stands (c : RemoteConsumer) (p : Phase) : Prop :=
  p.Describes c.isOpen c.consuming c.held

theorem LocalService.serveConsumer_next {x : Endpoint} {p : Phase} (stands : x.consumer.Stands p)
    (s : LocalService) (call : ConsumerCall) :
    (serveConsumer x s call).1 = (p.next true call).1 ∧
      (serveConsumer x s call).2.1.consumer.Stands (p.next true call).2 := by
  obtain ⟨producer, ⟨isOpen, consuming, held⟩, stream⟩ := x
  obtain ⟨rfl, rfl, holds⟩ := stands
  cases call with
  | openChannel => cases p <;> exact ⟨rfl, rfl, rfl, holds⟩
  | beginConsume =>
    cases p with
    | closed | ready | taken => exact ⟨rfl, rfl, rfl, holds⟩
    | idle => exact ⟨rfl, rfl, rfl, rfl⟩
  | receive => cases p <;> cases held <;> cases holds <;> exact ⟨rfl, rfl, rfl, rfl⟩
  | closeChannel | closeConnection => cases p <;> exact ⟨rfl, rfl, rfl, rfl⟩

theorem BrokerServer.serveConsumer_next {x : RemoteListener} {p : Phase}
    (stands : x.consumer.Stands p) (s : BrokerServer) (call : ConsumerCall) :
    (serveConsumer x s call).1 = (p.next (Remote.grants x.consumer.config s call) call).1 ∧
      (serveConsumer x s call).2.1.consumer.Stands
        (p.next (Remote.grants x.consumer.config s call) call).2 ∧
      (serveConsumer x s call).2.1.consumer.config = x.consumer.config := by
  cases call with
  | openChannel =>
    obtain ⟨result, caller⟩ := x.call_openChannel s
    simp only [serveConsumer, result, caller, Remote.grants]
    cases Remote.hasStream x.consumer.config s with
    | true => cases p <;> exact ⟨rfl, ⟨rfl, stands.consuming, stands.holds⟩, rfl⟩
    | false => cases p <;> exact ⟨rfl, stands, rfl⟩
  | beginConsume =>
    cases p with
    | idle =>
      obtain ⟨result, session, caller⟩ := RemoteListener.call_beginConsume s stands.isOpen
        stands.consuming
      simp only [serveConsumer, result, caller]
      cases Remote.grants x.consumer.config s .beginConsume with
      | true => exact ⟨rfl, ⟨stands.isOpen, rfl, rfl⟩, rfl⟩
      | false => exact ⟨rfl, stands, rfl⟩
    | closed | ready | taken =>
      obtain ⟨⟨config, isOpen, consuming, held⟩, session⟩ := x
      obtain ⟨rfl, rfl, holds⟩ := stands
      exact ⟨rfl, ⟨rfl, rfl, holds⟩, rfl⟩
  | receive =>
    obtain ⟨⟨config, isOpen, consuming, held⟩, session⟩ := x
    obtain ⟨rfl, rfl, holds⟩ := stands
    cases p <;> cases held <;> cases holds <;> exact ⟨rfl, ⟨rfl, rfl, rfl⟩, rfl⟩
  | closeChannel | closeConnection => cases p <;> exact ⟨rfl, ⟨rfl, rfl, rfl⟩, rfl⟩

/-! ## A consumer call by call -/

/-- How many calls of a kind did what they were to do. -/
def successes {ε : Type} (call : ConsumerCall) (passed : List (MadeCall ε ConsumerCall)) : Nat :=
  passed.countP fun p => decide (p.call = call) && p.result.isOk

/-- A consumer does what the protocol says, from when it is new. -/
structure Consumes {σ ε : Type}
    (serve : σ → ε → ConsumerCall → Except BrokerError Unit × σ × ε) (new : σ)
    (grants : ε → ConsumerCall → Bool) (isOpen consuming holds : σ → Bool) : Prop where
  /-- Each call gives what it gives in the phase that the calls before have led to. -/
  results : ∀ turns : List (ε × ConsumerCall), (makeCalls serve new turns).1.map (·.result) =
    Phase.closed.results (turns.map fun t => (grants t.1 t.2, t.2))
  /-- Between two closings at most one session begins and at most one is taken. -/
  once : ∀ earlier stretch : List (ε × ConsumerCall), (∀ t ∈ stretch, t.2.isClosing = false) →
    let passed := (makeCalls serve (makeCalls serve new earlier).2 stretch).1
    successes .beginConsume passed ≤ 1 ∧ successes .receive passed ≤ 1
  /-- A session is held only by a consumer that consumes, and only an open channel consumes. -/
  sound : ∀ turns : List (ε × ConsumerCall), let x := (makeCalls serve new turns).2
    (holds x = true → consuming x = true) ∧ (consuming x = true → isOpen x = true)

section Consumer

variable {σ ε : Type} {serve : σ → ε → ConsumerCall → Except BrokerError Unit × σ × ε}
  {grants : ε → ConsumerCall → Bool} {At : σ → Phase → Prop} {x : σ} {p : Phase}

/-- In each phase each call does what the protocol says. -/
def Follows (serve : σ → ε → ConsumerCall → Except BrokerError Unit × σ × ε)
    (grants : ε → ConsumerCall → Bool) (At : σ → Phase → Prop) : Prop :=
  ∀ x p shared call, At x p → (serve x shared call).1 = (p.next (grants shared call) call).1 ∧
    At (serve x shared call).2.1 (p.next (grants shared call) call).2

theorem Follows.results (h : Follows serve grants At) (stands : At x p)
    (turns : List (ε × ConsumerCall)) : (makeCalls serve x turns).1.map (·.result) =
      p.results (turns.map fun t => (grants t.1 t.2, t.2)) := by
  induction turns generalizing x p with
  | nil => rfl
  | cons t later ih =>
    obtain ⟨same, stands⟩ := h x p t.1 t.2 stands
    exact congrArg₂ List.cons same (ih stands)

theorem Follows.stands (h : Follows serve grants At) (stands : At x p)
    (turns : List (ε × ConsumerCall)) : ∃ q, At (makeCalls serve x turns).2 q := by
  induction turns generalizing x p with
  | nil => exact ⟨p, stands⟩
  | cons t later ih => exact ih (h x p t.1 t.2 stands).2

/-- If every success has its price and only closing gives credit, then without closing there are no
more successes than there is credit for. -/
theorem Follows.successes_le (h : Follows serve grants At) {call : ConsumerCall}
    {credit : Phase → Nat}
    (pays : ∀ p granted c, c.isClosing = false →
      (if decide (c = call) && (Phase.next granted p c).1.isOk then 1 else 0) +
        credit (Phase.next granted p c).2 ≤ credit p)
    (stands : At x p) {turns : List (ε × ConsumerCall)}
    (goes_on : ∀ t ∈ turns, t.2.isClosing = false) :
    successes call (makeCalls serve x turns).1 ≤ credit p := by
  induction turns generalizing x p with
  | nil => exact Nat.zero_le _
  | cons t later ih =>
    obtain ⟨same, stands⟩ := h x p t.1 t.2 stands
    have rest := ih stands fun t member => goes_on t (.tail _ member)
    have price := pays p (grants t.1 t.2) t.2 (goes_on t (.head _))
    rw [← same] at price
    have counted : successes call (makeCalls serve x (t :: later)).1 =
        successes call (makeCalls serve (serve x t.1 t.2).2.1 later).1 +
          (if decide (t.2 = call) && (serve x t.1 t.2).1.isOk then 1 else 0) := List.countP_cons
    rw [counted]
    omega

/-- Whether a session can begin before the channel is closed. -/
def Phase.beginsLeft : Phase → Nat
  | .closed | .idle => 1
  | .ready | .taken => 0

/-- Whether a session can be taken before the channel is closed. -/
def Phase.receivesLeft : Phase → Nat
  | .closed | .idle | .ready => 1
  | .taken => 0

theorem Phase.begins_paid (p : Phase) (granted : Bool) (c : ConsumerCall)
    (goes_on : c.isClosing = false) :
    (if decide (c = .beginConsume) && (p.next granted c).1.isOk then 1 else 0) +
      (p.next granted c).2.beginsLeft ≤ p.beginsLeft := by
  cases p <;> cases c <;> cases granted <;> cases goes_on <;> decide

theorem Phase.receives_paid (p : Phase) (granted : Bool) (c : ConsumerCall)
    (goes_on : c.isClosing = false) :
    (if decide (c = .receive) && (p.next granted c).1.isOk then 1 else 0) +
      (p.next granted c).2.receivesLeft ≤ p.receivesLeft := by
  cases p <;> cases c <;> cases granted <;> cases goes_on <;> decide

theorem Phase.left_le_one (p : Phase) : p.beginsLeft ≤ 1 ∧ p.receivesLeft ≤ 1 := by
  cases p <;> decide

theorem Follows.consumes (h : Follows serve grants At) {new : σ} (fresh : At new .closed)
    {α : Type} {isOpen consuming : σ → Bool} {held : σ → Option α}
    (described : ∀ x p, At x p → p.Describes (isOpen x) (consuming x) (held x)) :
    Consumes serve new grants isOpen consuming fun x => (held x).isSome where
  results := h.results fresh
  once := by
    intro earlier stretch goes_on
    obtain ⟨p, stands⟩ := h.stands fresh earlier
    obtain ⟨begins, receives⟩ := p.left_le_one
    exact ⟨(h.successes_le Phase.begins_paid stands goes_on).trans begins,
      (h.successes_le Phase.receives_paid stands goes_on).trans receives⟩
  sound := by
    intro turns x
    obtain ⟨p, stands⟩ := h.stands fresh turns
    obtain ⟨opened, consumed, held⟩ := described x p stands
    rw [opened, consumed, held]
    cases p <;> decide

end Consumer

/-! ## A producer call by call -/

/-- A channel has been opened, and it was not closed since. -/
def OpenedSince {ε : Type} (calls : List (MadeCall ε ProducerCall)) : Prop :=
  Since (fun c => c.call = .openChannel ∧ c.result = .ok ()) (fun c => c.call.isClosing = true)
    calls

/-- A producer publishes only on an open channel, from when it is new. -/
structure Produces {σ ε : Type}
    (serve : σ → ε → ProducerCall → Except BrokerError Unit × σ × ε) (new : σ) : Prop where
  refused : ∀ (turns : List (ε × ProducerCall)) (shared : ε) (payload : Bytes),
    let before := makeCalls serve new turns
    (serve before.2 shared (.publish payload)).1 = .error .channelNotOpen ↔ ¬ OpenedSince before.1
  /-- What is refused changes nothing, and least of all the queue. -/
  unchanged : ∀ (turns : List (ε × ProducerCall)) (shared : ε) (payload : Bytes),
    let before := makeCalls serve new turns
    (serve before.2 shared (.publish payload)).1 = .error .channelNotOpen →
      (serve before.2 shared (.publish payload)).2 = (before.2, shared)

/-- What a producer does in one call. -/
structure Guards {σ ε : Type} (serve : σ → ε → ProducerCall → Except BrokerError Unit × σ × ε)
    (isOpen : σ → Bool) : Prop where
  opens : ∀ x shared call, isOpen (serve x shared call).2.1 = true ↔
    (call = .openChannel ∧ (serve x shared call).1 = .ok ()) ∨
      ¬ call.isClosing = true ∧ isOpen x = true
  refuses : ∀ x shared payload,
    (serve x shared (.publish payload)).1 = .error .channelNotOpen ↔ isOpen x = false
  spares : ∀ x shared payload, isOpen x = false →
    (serve x shared (.publish payload)).2 = (x, shared)

section Producer

variable {σ ε : Type} {serve : σ → ε → ProducerCall → Except BrokerError Unit × σ × ε} {new : σ}
  {isOpen : σ → Bool}

theorem Guards.isOpen_iff (h : Guards serve isOpen) (fresh : isOpen new = false)
    (turns : List (ε × ProducerCall)) :
    isOpen (makeCalls serve new turns).2 = true ↔ OpenedSince (makeCalls serve new turns).1 := by
  induction turns using List.reverseRecOn with
  | nil =>
    refine iff_of_false ?_ (not_since_nil _ _)
    rw [makeCalls, fresh]
    decide
  | append_singleton turns t ih =>
    rw [makeCalls_concat, h.opens, ih, OpenedSince, OpenedSince, since_concat]

theorem Guards.produces (h : Guards serve isOpen) (fresh : isOpen new = false) :
    Produces serve new where
  refused := by
    intro turns shared payload before
    rw [h.refuses, ← h.isOpen_iff fresh turns, Bool.not_eq_true]
  unchanged := by
    intro turns shared payload before refused
    exact h.spares _ _ _ ((h.refuses _ _ _).mp refused)

end Producer

theorem LocalService.serveProducer_publish (x : Endpoint) (s : LocalService) (payload : Bytes) :
    serveProducer x s (.publish payload) =
      if x.producer.isOpen then (.ok (), x, { s with broker := s.broker.publish payload })
      else (.error .channelNotOpen, x, s) := by
  cases isOpen : x.producer.isOpen with
  | true => exact s.answer_publish isOpen payload
  | false => exact s.answer_publish_closed isOpen payload

theorem LocalService.guards : Guards serveProducer (·.producer.isOpen) where
  opens := by
    intro x s call
    cases call with
    | openChannel => exact iff_of_true rfl (.inl ⟨rfl, rfl⟩)
    | publish payload =>
      rw [serveProducer_publish]
      cases isOpen : x.producer.isOpen <;> simp [isOpen, ProducerCall.isClosing]
    | closeChannel | closeConnection =>
      exact iff_of_false nofun fun h => h.elim (nomatch ·.1) (·.1 rfl)
  refuses := by
    intro x s payload
    rw [serveProducer_publish]
    cases x.producer.isOpen <;> simp
  spares := by
    intro x s payload closed
    rw [serveProducer_publish, closed]
    rfl

theorem RemoteProducer.call_openChannel (p : RemoteProducer) (s : BrokerServer) :
    (p.call s .openChannel).result = Phase.reply (Remote.hasStream p.config s) ∧
    (p.call s .openChannel).caller =
      if Remote.hasStream p.config s then { p with isOpen := true } else p := by
  simp only [call, openChannel, Remote.Outcome.reply, Remote.declareStream_result]
  cases Remote.hasStream p.config s <;> exact ⟨rfl, rfl⟩

theorem BrokerServer.guards : Guards serveProducer (·.isOpen) where
  opens := by
    intro p s call
    cases call with
    | openChannel =>
      obtain ⟨result, caller⟩ := p.call_openChannel s
      simp only [serveProducer, result, caller]
      cases Remote.hasStream p.config s <;> simp [Phase.reply, ProducerCall.isClosing]
    | publish payload => simp [serveProducer, RemoteProducer.call, ProducerCall.isClosing]
    | closeChannel | closeConnection =>
      exact iff_of_false nofun fun h => h.elim (nomatch ·.1) (·.1 rfl)
  refuses := by
    intro p s payload
    simp only [serveProducer, RemoteProducer.call, RemoteProducer.publish]
    cases p.isOpen with
    | false => simp
    | true => cases (s.ask (.publish p.config.subject payload)).1 <;> simp
  spares := by
    intro p s payload closed
    simp only [serveProducer, RemoteProducer.call, RemoteProducer.publish, closed]
    rfl

/-! ## Refused requests -/

/-- A producer whose stream is refused stays as it is. -/
theorem RemoteProducer.refused (p : RemoteProducer) (s : BrokerServer)
    (refused : Remote.hasStream p.config s = false) :
    (p.call s .openChannel).result ≠ .ok () ∧ (p.call s .openChannel).caller = p := by
  obtain ⟨result, caller⟩ := p.call_openChannel s
  rw [refused] at result caller
  exact ⟨result ▸ nofun, caller⟩

/-- A consumer to whom something is refused stays as it is, and so does its session. -/
theorem RemoteListener.refused (x : RemoteListener) (s : BrokerServer) {call : ConsumerCall}
    (requests : call = .openChannel ∨ call = .beginConsume)
    (refused : Remote.grants x.consumer.config s call = false) :
    (x.call s call).result ≠ .ok () ∧ (x.call s call).caller = x := by
  rcases requests with rfl | rfl
  · obtain ⟨result, caller⟩ := x.call_openChannel s
    rw [show Remote.hasStream x.consumer.config s = false from refused] at result caller
    exact ⟨result ▸ nofun, caller⟩
  · cases isOpen : x.consumer.isOpen with
    | false =>
      simp only [call, RemoteConsumer.beginConsume, isOpen]
      exact ⟨nofun, rfl⟩
    | true =>
      cases consuming : x.consumer.consuming with
      | true =>
        simp only [call, RemoteConsumer.beginConsume, isOpen, consuming]
        exact ⟨nofun, rfl⟩
      | false =>
        obtain ⟨result, session, caller⟩ := call_beginConsume s isOpen consuming
        rw [refused] at result caller
        exact ⟨result ▸ nofun, caller⟩

theorem LocalService.follows :
    Follows serveConsumer (fun _ _ => true) fun x p => x.consumer.Stands p :=
  fun _ _ s call stands => serveConsumer_next stands s call

theorem LocalService.consumes : Consumes serveConsumer Endpoint.new (fun _ _ => true)
    (·.consumer.isOpen) (·.consumer.consuming) (·.consumer.held.isSome) :=
  follows.consumes ⟨rfl, rfl, rfl⟩ fun _ _ stands => stands

theorem BrokerServer.consumes (config : BrokerConfig) :
    Consumes serveConsumer (.new config) (Remote.grants config)
      (·.consumer.isOpen) (·.consumer.consuming) (·.consumer.held.isSome) := by
  have follows : Follows serveConsumer (Remote.grants config) fun x p =>
      x.consumer.config = config ∧ x.consumer.Stands p := by
    rintro x p s call ⟨rfl, stands⟩
    obtain ⟨result, after, same⟩ := serveConsumer_next stands s call
    exact ⟨result, same, after⟩
  exact follows.consumes ⟨rfl, rfl, rfl, rfl⟩ fun x p stands => stands.2

/-- **Both brokers follow one protocol.** Whatever others do between their calls, a consumer in the
process and a consumer of a server do call by call what the phases of a channel say, and so they
agree as long as the server grants what it is asked; no more than one session begins and no more
than one is taken before the channel is closed, a session is held only by a consumer that consumes,
and only an open channel consumes. A producer is told that its channel is not open if and only if
none was opened since the last closing, and then nothing is published. Where a request is refused,
the channel and the session stay as they were. -/
theorem brokers_follow_protocol (config : BrokerConfig) :
    Consumes LocalService.serveConsumer .new (fun _ _ => true)
      (·.consumer.isOpen) (·.consumer.consuming) (·.consumer.held.isSome) ∧
    Consumes BrokerServer.serveConsumer (.new config) (Remote.grants config)
      (·.consumer.isOpen) (·.consumer.consuming) (·.consumer.held.isSome) ∧
    (∀ turns : List (LocalService × BrokerServer × ConsumerCall),
      (∀ t ∈ turns, Remote.grants config t.2.1 t.2.2 = true) →
      (makeCalls BrokerServer.serveConsumer (.new config) (turns.map (·.2))).1.map (·.result) =
        (makeCalls LocalService.serveConsumer .new (turns.map fun t => (t.1, t.2.2))).1.map
          (·.result)) ∧
    Produces LocalService.serveProducer .new ∧
    Produces BrokerServer.serveProducer (.new config) ∧
    (∀ (p : RemoteProducer) (s : BrokerServer), Remote.grants p.config s .openChannel = false →
      (p.call s .openChannel).result ≠ .ok () ∧ (p.call s .openChannel).caller = p) ∧
    ∀ (x : RemoteListener) (s : BrokerServer) (call : ConsumerCall),
      call = .openChannel ∨ call = .beginConsume → Remote.grants x.consumer.config s call = false →
      (x.call s call).result ≠ .ok () ∧ (x.call s call).caller = x := by
  refine ⟨LocalService.consumes, BrokerServer.consumes config, ?_, LocalService.guards.produces rfl,
    BrokerServer.guards.produces rfl, fun p s => p.refused s, fun x s call => x.refused s⟩
  intro turns granted
  rw [LocalService.consumes.results, (BrokerServer.consumes config).results, List.map_map,
    List.map_map]
  congr 1
  apply List.map_congr_left
  intro t member
  exact congrArg (·, t.2.2) (granted t member)

namespace Remote

/-! A session that is taken can be followed by another one only if the channel is closed and opened
again, and a server that refuses to make the stream leaves the channel closed. -/

def sendout : BrokerConfig where
  url := "nats://localhost:4222"
  stream := "CALENDAR_NOTIFICATIONS"
  subject := "calendar.notifications"
  consumer := "calendar-sender"
  maxDeliver := 5

def reopening : List ConsumerCall :=
  [.beginConsume, .openChannel, .receive, .beginConsume, .beginConsume, .receive, .receive,
    .beginConsume, .closeChannel, .receive, .openChannel, .beginConsume, .receive]

/-- Nobody can make a stream there. -/
def full : BrokerServer := { BrokerServer.new with failing := [.streamCreate] }

theorem restarted_only_by_reopening :
    let turns := reopening.map fun call => (LocalService.new 5, BrokerServer.new, call)
    (∀ t ∈ turns, grants sendout t.2.1 t.2.2 = true) ∧
    (makeCalls BrokerServer.serveConsumer (.new sendout) (turns.map (·.2))).1.map (·.result) =
      [.error .channelNotOpen, .ok (), .error .notConsuming, .ok (), .error .alreadyConsuming,
        .ok (), .error .notConsuming, .error .alreadyConsuming, .ok (), .error .channelNotOpen,
        .ok (), .ok (), .ok ()] ∧
    grants sendout full .openChannel = false ∧
    ((RemoteListener.new sendout).call full .openChannel).caller = .new sendout := by
  intro turns
  obtain ⟨here, -, agree, -, -, -, refused⟩ := brokers_follow_protocol sendout
  have granted : ∀ t ∈ turns, grants sendout t.2.1 t.2.2 = true := by decide
  refine ⟨granted, ?_, by decide, (refused _ full .openChannel (.inl rfl) (by decide)).2⟩
  rw [agree turns granted, here.results]
  rfl

end Remote
end Agenda
