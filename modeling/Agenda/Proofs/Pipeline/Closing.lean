import Agenda.Proofs.Broker.Protocol
import Agenda.Proofs.Pipeline.Reception

/-! All that a sender calls and hears from its start until it returns. Whatever it is answered, it
closes what it has opened, and returns the first failure of the broker. -/
namespace Agenda

/-! ## What passes, and where it leads -/

namespace Machine

/-- What passes between a part of the service and those that it asks and listens to. -/
inductive Passage
  | called (x : Answered)
  | heard (signal : Signal)

namespace Passage

def call? : Passage → Option Answered
  | .called x => some x
  | .heard _ => none

/-- What the broker answers. -/
def reply? : Passage → Option (Except BrokerError Unit)
  | .called ⟨.consume _, a⟩ => some a
  | _ => none

end Passage

variable {σ : Type} [Machine σ] {s t u : σ} {passed later : List Passage}

/-- From the state `s` on this passes until the state is `t`. A call may be answered in any way, and
who listens may hear anything. -/
inductive Leads : σ → List Passage → σ → Prop
  | stays (s : σ) : Leads s [] s
  | asked {s t : σ} {c : Call} {next : c.Answer → σ × List Notice} {a : c.Answer}
      {later : List Passage} (move : Machine.move s = .ask c next)
      (rest : Leads (next a).1 later t) : Leads s (.called ⟨c, a⟩ :: later) t
  | listened {s t : σ} {next : Signal → σ × List Notice} {signal : Signal}
      {later : List Passage} (move : Machine.move s = .listen next)
      (rest : Leads (next signal).1 later t) : Leads s (.heard signal :: later) t

theorem Leads.trans (h : Leads s passed t) (rest : Leads t later u) :
    Leads s (passed ++ later) u := by
  induction h with
  | stays => exact rest
  | asked move _ ih => exact .asked move (ih rest)
  | listened move _ ih => exact .listened move (ih rest)

theorem Leads.of_ask (h : Leads s passed t) {c : Call} {next : c.Answer → σ × List Notice}
    (move : Machine.move s = .ask c next) (halts : Machine.move t = .halt) :
    ∃ a later, passed = .called ⟨c, a⟩ :: later ∧ Leads (next a).1 later t := by
  cases h with
  | stays =>
    rw [move] at halts
    cases halts
  | asked again rest =>
    rw [move] at again
    cases again
    exact ⟨_, _, rfl, rest⟩
  | listened again rest =>
    rw [move] at again
    cases again

/-- What passes decides where it leads. -/
theorem Leads.unique (h : Leads s passed t) (same : Leads s passed u) : u = t := by
  induction h with
  | stays =>
    cases same
    rfl
  | asked move _ ih =>
    cases same with
    | asked again rest =>
      rw [move] at again
      cases again
      exact ih rest
  | listened move _ ih =>
    cases same with
    | listened again rest =>
      rw [move] at again
      cases again
      exact ih rest

theorem Leads.of_halt (h : Leads s passed t) (halts : Machine.move s = .halt) :
    passed = [] ∧ t = s := by
  cases h with
  | stays => exact ⟨rfl, rfl⟩
  | asked again | listened again =>
    rw [halts] at again
    cases again

end Machine

open Machine

/-! ## What passes between a sender and the others -/

namespace Sender

/-- A call of the broker with its answer. -/
def told (call : ConsumerCall) (a : Except BrokerError Unit) : Passage := .called ⟨.consume call, a⟩

/-- What passes while a sender consumes. It skips what could not be received, and passes each
notification to the storage before it listens again, whatever the storage answers. -/
inductive Attends : List Passage → Prop
  | nothing : Attends []
  | skips (e : BrokerError) {later : List Passage} : Attends later →
      Attends (.heard (.delivery (.error e)) :: later)
  | records (n : Notification) (a : Except StorageError Unit) {later : List Passage} :
      Attends later → Attends (.heard (.delivery (.ok n)) :: .called ⟨.record n, a⟩ :: later)

/-- What passes on an open channel until consuming is over, and how it ended. -/
inductive Consuming : List Passage → Except BrokerError Unit → Prop
  | refused (e : BrokerError) : Consuming [told .beginConsume (.error e)] (.error e)
  | withheld (e : BrokerError) :
      Consuming [told .beginConsume (.ok ()), told .receive (.error e)] (.error e)
  | attended {passed : List Passage} {signal : Signal} (attends : Attends passed)
      (last : signal = .ended ∨ signal = .cancelled) :
      Consuming
        (told .beginConsume (.ok ()) :: told .receive (.ok ()) :: (passed ++ [.heard signal]))
        (.ok ())

/-- All that passes from the start of a sender until it returns, and what it returns. -/
inductive Performs : List Passage → Except BrokerError Unit → Prop
  | unopened (e : BrokerError) : Performs [told .openChannel (.error e)] (.error e)
  | opened {passed : List Passage} {outcome : Except BrokerError Unit}
      (consuming : Consuming passed outcome) (closed disconnected : Except BrokerError Unit) :
      Performs
        (told .openChannel (.ok ()) ::
          (passed ++ [told .closeChannel closed, told .closeConnection disconnected]))
        (first (first outcome closed) disconnected)

/-- The first failure of the broker, if there is any. -/
def firstFailure (passed : List Passage) : Except BrokerError Unit :=
  (passed.filterMap Passage.reply?).foldr first (.ok ())

/-- What passes until a sender listens for the first time. -/
def opening : List Passage :=
  [told .openChannel (.ok ()), told .beginConsume (.ok ()), told .receive (.ok ())]

variable {passed : List Passage} {outcome closed result : Except BrokerError Unit}

/-! ## Whatever passes so is possible -/

theorem start_opening : Leads start opening .listening := by
  refine .asked rfl ?_
  refine .asked rfl ?_
  refine .asked rfl ?_
  exact .stays _

/-- Nothing that a sender is delivered, and no answer of the storage, ends its listening. -/
theorem Attends.leads (h : Attends passed) : Leads listening passed .listening := by
  induction h with
  | nothing => exact .stays _
  | skips e _ ih => exact .listened rfl ih
  | records n a _ ih =>
    refine .listened rfl ?_
    refine .asked rfl ?_
    rcases a with error | _
    · cases error <;> exact ih
    · exact ih

theorem Consuming.leads (h : Consuming passed outcome) :
    Leads beginConsume passed (.closeChannel outcome) := by
  cases h with
  | refused => exact .asked rfl (.stays _)
  | withheld =>
    refine .asked rfl ?_
    exact .asked rfl (.stays _)
  | attended attends last =>
    refine .asked rfl ?_
    refine .asked rfl ?_
    refine attends.leads.trans ?_
    rcases last with rfl | rfl <;> exact .listened rfl (.stays _)

theorem closing_leads (outcome closed disconnected : Except BrokerError Unit) :
    Leads (closeChannel outcome)
      [told .closeChannel closed, told .closeConnection disconnected]
      (.finished (first (first outcome closed) disconnected)) := by
  refine .asked rfl ?_
  exact .asked rfl (.stays _)

theorem Performs.leads (h : Performs passed result) : Leads start passed (.finished result) := by
  cases h with
  | unopened => exact .asked rfl (.stays _)
  | opened consuming closed disconnected =>
    refine .asked rfl ?_
    exact consuming.leads.trans (closing_leads _ _ _)

/-! ## Nothing else is possible -/

theorem performs_of_closing (h : Leads (closeChannel outcome) passed (.finished result)) :
    ∃ closed disconnected, result = first (first outcome closed) disconnected ∧
      passed = [told .closeChannel closed, told .closeConnection disconnected] := by
  obtain ⟨closed, later, rfl, closing⟩ := h.of_ask rfl rfl
  obtain ⟨disconnected, _, rfl, halted⟩ := closing.of_ask rfl rfl
  obtain ⟨rfl, same⟩ := halted.of_halt rfl
  cases same
  exact ⟨closed, disconnected, rfl, rfl⟩

/-- What passes when a sender that listens returns later. -/
def Attended (result : Except BrokerError Unit) (passed : List Passage) : Prop :=
  ∃ attended signal later, passed = attended ++ .heard signal :: later ∧ Attends attended ∧
    (signal = .ended ∨ signal = .cancelled) ∧
    Leads (closeChannel (.ok ())) later (.finished result)

theorem Attended.skips (h : Attended result passed) (e : BrokerError) :
    Attended result (.heard (.delivery (.error e)) :: passed) := by
  obtain ⟨attended, signal, later, rfl, attends, last, closing⟩ := h
  exact ⟨_, signal, later, rfl, attends.skips e, last, closing⟩

theorem Attended.records (h : Attended result passed) (n : Notification)
    (a : Except StorageError Unit) :
    Attended result (.heard (.delivery (.ok n)) :: .called ⟨.record n, a⟩ :: passed) := by
  obtain ⟨attended, signal, later, rfl, attends, last, closing⟩ := h
  exact ⟨_, signal, later, rfl, attends.records n a, last, closing⟩

/-- What passes in a state of a sender that returns later, as far as it is about its listening. -/
def Awaits (result : Except BrokerError Unit) (passed : List Passage) : Sender → Prop
  | .listening => Attended result passed
  | .record n => ∃ a later, passed = .called ⟨.record n, a⟩ :: later ∧ Attended result later
  | _ => True

/-- A sender that listens stops doing so only when it is told to or the delivery has ended. -/
theorem Awaits.of_leads {s t : Sender} (h : Leads s passed t) (finished : t = .finished result) :
    Awaits result passed s := by
  -- The induction goes through both states of the loop: a sender that has taken a notification
  -- listens again only after it has passed it to the storage.
  induction h with
  | stays =>
    subst finished
    trivial
  | @asked s t c next a later move rest ih =>
    cases s with
    | record n =>
      cases move
      refine ⟨a, later, rfl, ?_⟩
      rcases a with error | _
      · cases error <;> exact ih finished
      · exact ih finished
    | listening => cases move
    | _ => trivial
  | @listened s t next signal later move rest ih =>
    obtain ⟨rfl, -⟩ := after_signal move
    cases move
    cases signal with
    | ended => exact ⟨[], _, later, rfl, .nothing, .inl rfl, finished ▸ rest⟩
    | cancelled => exact ⟨[], _, later, rfl, .nothing, .inr rfl, finished ▸ rest⟩
    | delivery item =>
      cases item with
      | error e => exact Attended.skips (ih finished) e
      | ok n =>
        obtain ⟨a, later, rfl, attended⟩ := ih finished
        exact attended.records n a

theorem consuming_of_beginConsume (h : Leads beginConsume passed (.finished result)) :
    ∃ consumed outcome later, passed = consumed ++ later ∧ Consuming consumed outcome ∧
      Leads (closeChannel outcome) later (.finished result) := by
  obtain ⟨began, later, rfl, receiving⟩ := h.of_ask rfl rfl
  cases began with
  | error e => exact ⟨_, _, later, rfl, .refused e, receiving⟩
  | ok =>
    obtain ⟨received, later, rfl, listening⟩ := receiving.of_ask rfl rfl
    cases received with
    | error e => exact ⟨_, _, later, rfl, .withheld e, listening⟩
    | ok =>
      obtain ⟨attended, signal, later, rfl, attends, last, closing⟩ := Awaits.of_leads listening rfl
      refine ⟨_, _, later, ?_, .attended attends last, closing⟩
      simp only [List.cons_append, List.append_assoc, List.nil_append]
      rfl

theorem performs_of_leads (h : Leads start passed (.finished result)) : Performs passed result := by
  obtain ⟨opened, later, rfl, rest⟩ := h.of_ask rfl rfl
  cases opened with
  | error e =>
    obtain ⟨rfl, same⟩ := rest.of_halt rfl
    cases same
    exact .unopened e
  | ok =>
    obtain ⟨consumed, outcome, later, rfl, consuming, closing⟩ := consuming_of_beginConsume rest
    obtain ⟨closed, disconnected, rfl, rfl⟩ := performs_of_closing closing
    exact .opened consuming closed disconnected

/-! ## What it returns -/

theorem first_ok (a : Except BrokerError Unit) : first a (.ok ()) = a := by
  cases a <;> rfl

theorem first_assoc (a b c : Except BrokerError Unit) :
    first (first a b) c = first a (first b c) := by
  cases a <;> rfl

theorem firstFailure_append (passed later : List Passage) :
    firstFailure (passed ++ later) = first (firstFailure passed) (firstFailure later) := by
  unfold firstFailure
  rw [List.filterMap_append, List.foldr_append]
  induction passed.filterMap Passage.reply? with
  | nil => rfl
  | cons a later ih => rw [List.foldr_cons, ih, List.foldr_cons, first_assoc]

/-- The broker is asked for nothing while the sender listens. -/
theorem Attends.firstFailure (h : Attends passed) : firstFailure passed = .ok () := by
  induction h with
  | nothing => rfl
  | skips _ _ ih | records _ _ _ ih => exact ih

theorem Consuming.firstFailure (h : Consuming passed outcome) : firstFailure passed = outcome := by
  cases h with
  | refused | withheld => rfl
  | @attended attended signal attends last =>
    change firstFailure (attended ++ [.heard signal]) = _
    rw [firstFailure_append, attends.firstFailure]
    rfl

theorem Performs.firstFailure (h : Performs passed result) : firstFailure passed = result := by
  cases h with
  | unopened => rfl
  | @opened consumed outcome consuming closed disconnected =>
    change firstFailure (consumed ++ [told .closeChannel closed, _]) = _
    rw [firstFailure_append, consuming.firstFailure, first_assoc]
    change first outcome (first closed (first disconnected (.ok ()))) = _
    rw [first_ok]

end Sender

/-! ## With a broker inside the process -/

namespace Reception

/-- A call of a broker inside the process is always carried out. What can fail is the storage. -/
def Act.isLocal (x : Reception) : Act → Bool
  | .fail _ => x.sender.pending?.isSome
  | .call | .look | .ended | .cancelled | .others _ => true

def staysLocal (x : Reception) : List Act → Bool
  | [] => true
  | a :: later => a.isLocal x && (x.step a).staysLocal later

variable {x : Reception}

theorem ask_leads
    (serve : LocalService → Endpoint → (c : Call) → c.Answer × Endpoint × LocalService) :
    ∃ passed, Leads x.sender passed (x.ask serve).sender ∧
      (x.ask serve).log = x.log ++ passed.filterMap Passage.call? := by
  unfold ask
  cases move : Machine.move x.sender with
  | halt | listen => exact ⟨[], .stays _, (List.append_nil _).symm⟩
  | ask c next => exact ⟨[.called ⟨c, _⟩], .asked move (.stays _), rfl⟩

theorem look_leads : ∃ passed, Leads x.sender passed x.look.sender ∧
    x.look.log = x.log ++ passed.filterMap Passage.call? := by
  unfold look
  cases move : Machine.move x.sender with
  | halt | ask => exact ⟨[], .stays _, (List.append_nil _).symm⟩
  | listen next =>
    rcases x.service.poll x.endpoint with ⟨_ | item, notices, service⟩
    · exact ⟨[], .stays _, (List.append_nil _).symm⟩
    · exact ⟨[.heard (.delivery item)], .listened move (.stays _), (List.append_nil _).symm⟩

theorem stop_leads (signal : Signal) : ∃ passed, Leads x.sender passed (x.stop signal).sender ∧
    (x.stop signal).log = x.log ++ passed.filterMap Passage.call? := by
  unfold stop
  cases move : Machine.move x.sender with
  | halt | ask => exact ⟨[], .stays _, (List.append_nil _).symm⟩
  | listen next => exact ⟨[.heard signal], .listened move (.stays _), (List.append_nil _).symm⟩

theorem step_leads (a : Act) : ∃ passed, Leads x.sender passed (x.step a).sender ∧
    (x.step a).log = x.log ++ passed.filterMap Passage.call? := by
  cases a with
  | call => exact ask_leads LocalService.answer
  | fail cause => exact ask_leads (failing cause)
  | look => exact look_leads
  | ended => exact stop_leads .ended
  | cancelled => exact stop_leads .cancelled
  | others => exact ⟨[], .stays _, (List.append_nil _).symm⟩

theorem run_leads (acts : List Act) : ∃ passed, Leads x.sender passed (x.run acts).sender ∧
    (x.run acts).log = x.log ++ passed.filterMap Passage.call? := by
  induction acts generalizing x with
  | nil => exact ⟨[], .stays _, (List.append_nil _).symm⟩
  | cons a later ih =>
    obtain ⟨first, leads, log⟩ := x.step_leads a
    obtain ⟨rest, leads_on, log_on⟩ := ih (x := x.step a)
    refine ⟨first ++ rest, leads.trans leads_on, ?_⟩
    change ((x.step a).run later).log = _
    rw [log_on, log, List.filterMap_append, List.append_assoc]

end Reception

/-- A sender has closed its channel after a call that closes, or it could not open it. -/
theorem Sender.hasClosed_after {s : Sender} {c : Call} {next : c.Answer → Sender × List Notice}
    (move : Machine.move s = .ask c next) {a : c.Answer} (closed : (next a).1.hasClosed = true) :
    s = .openChannel ∨ ∃ call, c = .consume call ∧ call.isClosing = true := by
  cases s with
  | openChannel => exact .inl rfl
  | closeChannel | closeConnection =>
    cases move
    exact .inr ⟨_, rfl, rfl⟩
  | beginConsume | receive =>
    cases move
    cases a <;> cases closed
  | record n =>
    obtain rfl : c = .record n := by cases move; rfl
    rw [(after_record move).2 a] at closed
    cases closed
  | listening | finished => cases move

namespace Reception

variable {x : Reception}

/-- Who has closed the channel has left the consumer as it was when it was new. -/
def LeavesNew (x : Reception) : Prop := x.sender.hasClosed = true → x.endpoint.consumer = .new

theorem LeavesNew.stop (h : x.LeavesNew) {signal : Signal}
    (last : signal = .ended ∨ signal = .cancelled) : (x.stop signal).LeavesNew := by
  unfold Reception.stop
  cases move : Machine.move x.sender with
  | halt | ask => exact h
  | listen next =>
    obtain ⟨listening, -⟩ := Sender.after_signal move
    rw [listening] at move
    cases move
    rcases last with rfl | rfl <;> exact nofun

theorem LeavesNew.look (h : x.LeavesNew) : x.look.LeavesNew := by
  unfold Reception.look
  cases move : Machine.move x.sender with
  | halt | ask => exact h
  | listen next =>
    obtain ⟨listening, -⟩ := Sender.after_signal move
    rcases x.service.poll x.endpoint with ⟨_ | item, notices, service⟩
    · exact h
    · rw [listening] at move
      cases move
      cases item <;> exact nofun

theorem LeavesNew.call (h : x.LeavesNew) : (x.step .call).LeavesNew := by
  change (x.ask LocalService.answer).LeavesNew
  unfold Reception.ask
  cases move : Machine.move x.sender with
  | halt | listen => exact h
  | ask c next =>
    intro closed
    rcases Sender.hasClosed_after move closed with opening | ⟨call, rfl, closing⟩
    · rw [opening] at move
      cases move
      cases closed
    · cases call with
      | closeChannel | closeConnection => rfl
      | openChannel | beginConsume | receive => cases closing

theorem LeavesNew.fail (h : x.LeavesNew) (recording : x.sender.pending?.isSome = true)
    (cause : String) : (x.step (.fail cause)).LeavesNew := by
  change (x.ask (failing cause)).LeavesNew
  unfold Reception.ask
  cases move : Machine.move x.sender with
  | halt | listen => exact h
  | ask c next =>
    intro closed
    rcases Sender.hasClosed_after move closed with opening | ⟨call, rfl, -⟩
    · rw [opening] at recording
      cases recording
    · rw [(Sender.after_consume move).1] at recording
      cases recording

theorem LeavesNew.step (h : x.LeavesNew) {a : Act} (possible : a.isLocal x = true) :
    (x.step a).LeavesNew := by
  cases a with
  | call => exact h.call
  | fail cause => exact h.fail possible cause
  | look => exact h.look
  | ended => exact h.stop (.inl rfl)
  | cancelled => exact h.stop (.inr rfl)
  | others => exact h

theorem LeavesNew.run (h : x.LeavesNew) {acts : List Act} (possible : x.staysLocal acts = true) :
    (x.run acts).LeavesNew := by
  induction acts generalizing x with
  | nil => exact h
  | cons a later ih =>
    obtain ⟨now, next⟩ := Bool.and_eq_true_iff.mp possible
    exact ih (h.step now) next

end Reception

/-- A consumer that is as it was when it was new can be used again. -/
theorem LocalService.reopened {x : Endpoint} (new : x.consumer = .new) (s₁ s₂ s₃ : LocalService) :
    (makeCalls serveConsumer x
      [(s₁, .openChannel), (s₂, .beginConsume), (s₃, .receive)]).1.map (·.result) =
        [.ok (), .ok (), .ok ()] := by
  have closed : x.consumer.Stands .closed := by
    rw [new]
    exact ⟨rfl, rfl, rfl⟩
  exact LocalService.follows.results closed _

/-- **A sender always cleans up, and it reports the first failure.** Whatever the broker and the
storage answer, whatever is delivered and whenever it is stopped, a sender that returns was refused
its channel, or it has begun to consume once, has taken its deliveries at most once, has recorded
before it closed, and has closed the channel and then the connection, each once; and all that passes
so is possible. It returns the first failure among the answers of the broker. As long as nobody
stops it and the delivery goes on, it listens, whatever could not be received or recorded. With a
broker inside the process it leaves its consumer as it was when it was new, so that it can be opened
and used again. -/
theorem sender_closes_and_reports :
    (∀ passed result, Leads Sender.start passed (.finished result) ↔
      Sender.Performs passed result) ∧
    (∀ passed result, Leads Sender.start passed (.finished result) →
      result = Sender.firstFailure passed) ∧
    (∀ passed, Sender.Attends passed → ∀ s,
      Leads Sender.start (Sender.opening ++ passed) s ↔ s = .listening) ∧
    ∀ (service : LocalService) (endpoint : Endpoint) (acts : List Reception.Act),
      let before := Reception.new service endpoint
      let x := before.run acts
      (∃ passed, Leads Sender.start passed x.sender ∧ x.log = passed.filterMap Passage.call?) ∧
      ∀ result, x.sender = .finished result → before.staysLocal acts = true →
        x.endpoint.consumer = .new ∧ ∀ s₁ s₂ s₃,
          (makeCalls LocalService.serveConsumer x.endpoint
            [(s₁, .openChannel), (s₂, .beginConsume), (s₃, .receive)]).1.map (·.result) =
              [.ok (), .ok (), .ok ()] := by
  refine ⟨fun _ _ => ⟨Sender.performs_of_leads, Sender.Performs.leads⟩,
    fun _ _ leads => (Sender.performs_of_leads leads).firstFailure.symm, ?_, ?_⟩
  · intro passed attends s
    have leads := Sender.start_opening.trans attends.leads
    constructor
    · exact leads.unique
    · rintro rfl
      exact leads
  · intro service endpoint acts before x
    refine ⟨?_, ?_⟩
    · obtain ⟨passed, leads, log⟩ := before.run_leads acts
      exact ⟨passed, leads, log⟩
    · intro result finished possible
      have fresh : before.LeavesNew := nofun
      have new := fresh.run possible (congrArg Sender.hasClosed finished)
      exact ⟨new, LocalService.reopened new⟩

/-- A message that nobody can read, and after it a notification. -/
def scrambled : LocalService :=
  { LocalService.new 1 with
    broker := ((LocalBroker.new 1).publish [0x7B]).publish Reception.rehearsal.toBytes }

/-- The sender skips the message and cannot store the notification. Then it is told to stop. -/
def troubled : List Reception.Act :=
  [.call, .call, .call, .look, .look, .fail "disk full", .cancelled, .call, .call]

/-- What a sender is told whose consumer has a session already and whose broker is gone when it is
to close. -/
def unwelcome : List Passage :=
  [Sender.told .openChannel (.ok ()), Sender.told .beginConsume (.error .alreadyConsuming),
    Sender.told .closeChannel (.error .channelNotOpen),
    Sender.told .closeConnection (.error Remote.refusal)]

/-- The first of three failures is returned, and after all this the consumer can be used again. -/
theorem reopened_after_trouble :
    let x := (Reception.new scrambled .new).run troubled
    Leads Sender.start unwelcome (.finished (.error .alreadyConsuming)) ∧
    Sender.firstFailure unwelcome = .error .alreadyConsuming ∧
    Leads Sender.start
      (Sender.opening ++ [.heard (.delivery (.error .channelNotOpen)),
        .heard (.delivery (.ok Reception.rehearsal)),
        .called ⟨.record Reception.rehearsal, .error (.backend "disk full")⟩]) .listening ∧
    x.sender = .finished (.ok ()) ∧
    (makeCalls LocalService.serveConsumer x.endpoint
      [(x.service, .openChannel), (x.service, .beginConsume), (x.service, .receive)]).1.map
        (·.result) = [.ok (), .ok (), .ok ()] := by
  intro x
  obtain ⟨performs, reports, listens, inside⟩ := sender_closes_and_reports
  have refused : Leads Sender.start unwelcome (.finished (.error .alreadyConsuming)) :=
    (performs _ _).mpr (.opened (.refused _) _ _)
  have finished : ((Reception.new scrambled .new).run troubled).sender = .finished (.ok ()) := by
    cbv
  have possible : (Reception.new scrambled .new).staysLocal troubled = true := by cbv
  refine ⟨refused, (reports _ _ refused).symm, ?_, finished,
    ((inside scrambled .new troubled).2 _ finished possible).2 _ _ _⟩
  exact (listens _ (.skips _ (.records _ _ .nothing)) _).mpr rfl

end Agenda
