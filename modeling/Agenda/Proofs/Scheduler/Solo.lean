import Agenda.Proofs.Conversation
import Agenda.Proofs.Service

/-! One cycle by itself. Some of its calls fail or are cut off, without effect, and clients use the
storage in between. What it calls is decided as soon as it has found what to do, and the queue gets
what it is told to have published, and nothing else. -/
namespace Agenda

/-- What befalls a call: it fails, or nobody answers it and it is cut off. -/
inductive Mishap
  | failing (storage : StorageError) (broker : BrokerError)
  | unanswered

/-- What the caller is told. `limit` is how long a call may take. -/
def Mishap.answer (limit : Duration) (c : Call) : Mishap → c.Answer
  | .failing storage broker => c.failed storage broker
  | .unanswered => c.timedOut limit

theorem Mishap.answer_eq_failed (limit : Duration) (c : Call) (m : Mishap) :
    ∃ storage broker, m.answer limit c = c.failed storage broker := by
  cases m with
  | failing storage broker => exact ⟨storage, broker, rfl⟩
  | unanswered => exact ⟨_, _, c.timedOut_eq_failed limit⟩

/-- Which calls of a cycle meet with a mishap, each by its number and by what is called. -/
abbrev Mishaps := Nat → Call → Option Mishap

/-- The payload that a call has published, if it was told so. -/
def Answered.published? : Answered → Option Bytes
  | ⟨.produce (.publish payload), .ok ()⟩ => some payload
  | _ => none

/-- The payloads that were published, in order. -/
def published (log : List Answered) : List Bytes := log.filterMap Answered.published?

namespace LocalService

/-- The queue gets what the caller is told to have published. -/
theorem answer_queue (s : LocalService) (x : Endpoint) (c : Call) :
    (s.answer x c).2.2.broker.queue.messages = s.broker.queue.messages ++
      (published [⟨c, (s.answer x c).1⟩]).map (⟨·, 0⟩) := by
  have nothing (q : List Delivery) : q = q ++ [].map (⟨·, 0⟩) := (List.append_nil q).symm
  cases c with
  | insert | save | delete =>
    refine Eq.trans ?_ (nothing _)
    exact congrArg (·.queue.messages) (s.storing_broker _)
  | findByStartDate | findByRemindIn => exact nothing _
  | record n =>
    obtain ⟨notifications, after, -⟩ := s.answer_filing x n
    rw [after]
    exact nothing _
  | consume call =>
    obtain ⟨broker, same, after⟩ := s.consume_broker x call
    simp only [answer, after, same]
    exact nothing _
  | produce call =>
    cases call with
    | openChannel | closeChannel | closeConnection => exact nothing _
    | publish payload =>
      cases isOpen : x.producer.isOpen with
      | true =>
        rw [s.answer_publish isOpen]
        rfl
      | false =>
        rw [s.answer_publish_closed isOpen]
        exact nothing _

end LocalService

/-- A cycle with the service that it shares with clients. -/
structure Solo (σ : Type) where
  state : σ
  endpoint : Endpoint
  service : LocalService
  /-- The calls of the cycle and what it was told, the first first. -/
  log : List Answered

namespace Solo

inductive Turn
  | cycle
  | client (c : StorageCall)

def Turn.isCycle : Turn → Bool
  | .cycle => true
  | .client _ => false

/-- The turn leaves the event under an id to the cycle. -/
def Turn.spares (id : String) : Turn → Prop
  | .cycle => True
  | .client c => c.target? ≠ some id

instance (id : String) : DecidablePred (Turn.spares id)
  | .cycle => inferInstanceAs (Decidable True)
  | .client c => inferInstanceAs (Decidable (c.target? ≠ some id))

/-- How often the cycle has its turn. -/
def cycles (turns : List Turn) : Nat := (turns.filter Turn.isCycle).length

variable {σ : Type} [Machine σ] (limit : Duration) (mishaps : Mishaps)

def start (state : σ) (x : Endpoint) (s : LocalService) : Solo σ := ⟨state, x, s, []⟩

/-- The cycle makes its next call. -/
def ask (t : Solo σ) : Solo σ :=
  match Machine.move t.state with
  | .ask c next => match mishaps t.log.length c with
    | none =>
      let (a, endpoint, service) := t.service.answer t.endpoint c
      ⟨(next a).1, endpoint, service, t.log ++ [⟨c, a⟩]⟩
    | some m =>
      let a := m.answer limit c
      { t with state := (next a).1, log := t.log ++ [⟨c, a⟩] }
  | _ => t

def step (t : Solo σ) : Turn → Solo σ
  | .cycle => t.ask limit mishaps
  | .client c => { t with service := (t.service.serve c).2 }

def run (t : Solo σ) (turns : List Turn) : Solo σ := turns.foldl (step limit mishaps) t

variable {limit} {mishaps} {t : Solo σ} {c : Call} {next : c.Answer → σ × List Notice}

/-! ## One call -/

theorem ask_halts (halts : Machine.move t.state = .halt) : t.ask limit mishaps = t := by
  simp only [ask, halts]

theorem ask_well (asks : Machine.move t.state = .ask c next)
    (well : mishaps t.log.length c = none) : t.ask limit mishaps =
      ⟨(next (t.service.answer t.endpoint c).1).1, (t.service.answer t.endpoint c).2.1,
        (t.service.answer t.endpoint c).2.2,
        t.log ++ [⟨c, (t.service.answer t.endpoint c).1⟩]⟩ := by
  simp only [ask, asks, well]

theorem ask_amiss (asks : Machine.move t.state = .ask c next) {m : Mishap}
    (amiss : mishaps t.log.length c = some m) : t.ask limit mishaps =
      ⟨(next (m.answer limit c)).1, t.endpoint, t.service, t.log ++ [⟨c, m.answer limit c⟩]⟩ := by
  simp only [ask, asks, amiss]

variable (limit mishaps)

/-- Whatever befalls it, a call is made and answered. -/
theorem ask_answered (asks : Machine.move t.state = .ask c next) :
    ∃ a, (t.ask limit mishaps).state = (next a).1 ∧
      (t.ask limit mishaps).log = t.log ++ [⟨c, a⟩] := by
  cases fate : mishaps t.log.length c with
  | none =>
    rw [ask_well asks fate]
    exact ⟨_, rfl, rfl⟩
  | some m =>
    rw [ask_amiss asks fate]
    exact ⟨_, rfl, rfl⟩

/-- Before its next turn clients may call, which is nothing to it. -/
theorem run_next {turns : List Turn} (turn : 0 < cycles turns) (t : Solo σ) :
    ∃ u : Solo σ, ∃ later, u.state = t.state ∧ u.log = t.log ∧ cycles turns = cycles later + 1 ∧
      t.run limit mishaps turns = (u.ask limit mishaps).run limit mishaps later := by
  induction turns generalizing t with
  | nil => exact absurd turn (Nat.lt_irrefl 0)
  | cons first later ih =>
    cases first with
    | cycle => exact ⟨t, later, rfl, rfl, rfl, rfl⟩
    | client c => exact ih turn (t.step limit mishaps (.client c))

/-! ## Calls that are decided -/

/-- The calls that are decided are made one after the other, and each turn pays one. -/
theorem run_decided {calls : List Call} (h : Decided t.state calls) (turns : List Turn) :
    (t.run limit mishaps turns).log.map (·.1) =
        t.log.map (·.1) ++ calls.take (cycles turns) ∧
      Decided (t.run limit mishaps turns).state (calls.drop (cycles turns)) := by
  induction turns generalizing t calls with
  | nil => exact ⟨(List.append_nil _).symm, h⟩
  | cons turn later ih =>
    cases turn with
    | client c => exact ih (t := t.step limit mishaps (.client c)) h
    | cycle =>
      cases h with
      | halts halts =>
        have same : t.step limit mishaps .cycle = t := ask_halts halts
        have rest := @ih t [] (.halts halts)
        rw [List.take_nil, List.drop_nil] at rest ⊢
        rw [run, List.foldl_cons, same]
        exact rest
      | @asks _ c next calls asks more =>
        obtain ⟨a, state, log⟩ := ask_answered limit mishaps asks
        have rest := @ih (t.step limit mishaps .cycle) calls (state ▸ more a)
        have count : cycles (.cycle :: later) = cycles later + 1 := rfl
        refine ⟨?_, rest.2⟩
        refine rest.1.trans ?_
        rw [step, log, count, List.map_append, List.append_assoc]
        rfl

/-- With enough turns they are all made, and nothing is left to be done. -/
theorem run_settled {calls : List Call} (h : Decided t.state calls) (turns : List Turn)
    (enough : calls.length ≤ cycles turns) :
    (t.run limit mishaps turns).log.map (·.1) = t.log.map (·.1) ++ calls ∧
      Decided (t.run limit mishaps turns).state [] := by
  have made := run_decided limit mishaps h turns
  rwa [List.take_of_length_le enough, List.drop_of_length_le enough] at made

/-! ## The queue -/

/-- Nothing is published by a call that meets with a mishap. -/
theorem published_amiss (c : Call) (m : Mishap) : published [⟨c, m.answer limit c⟩] = [] := by
  obtain ⟨storage, broker, failed⟩ := m.answer_eq_failed limit c
  rw [failed]
  cases c with
  | produce call => cases call <;> rfl
  | insert | save | delete | findByStartDate | findByRemindIn | record | consume => rfl

/-- The log and the queue grow alike. -/
structure Grows (t later : Solo σ) (made : List Answered) : Prop where
  log : later.log = t.log ++ made
  queue : later.service.broker.queue.messages =
    t.service.broker.queue.messages ++ (published made).map (⟨·, 0⟩)

omit [Machine σ] in
theorem Grows.of_same {later : Solo σ} (log : later.log = t.log)
    (broker : later.service.broker = t.service.broker) : Grows t later [] :=
  ⟨by rw [log, List.append_nil], by rw [broker]; exact (List.append_nil _).symm⟩

omit [Machine σ] in
theorem Grows.trans {u v : Solo σ} {made more : List Answered} (h : Grows t u made)
    (h' : Grows u v more) : Grows t v (made ++ more) where
  log := by rw [h'.log, h.log, List.append_assoc]
  queue := by
    rw [h'.queue, h.queue, List.append_assoc, published, published, published,
      List.filterMap_append, List.map_append]

theorem ask_grows (t : Solo σ) : ∃ made, Grows t (t.ask limit mishaps) made := by
  cases asks : Machine.move t.state with
  | halt => exact ⟨[], .of_same (by rw [ask_halts asks]) (by rw [ask_halts asks])⟩
  | listen next =>
    have same : t.ask limit mishaps = t := by simp only [ask, asks]
    exact ⟨[], .of_same (by rw [same]) (by rw [same])⟩
  | ask c next =>
    cases fate : mishaps t.log.length c with
    | none =>
      rw [ask_well asks fate]
      exact ⟨_, rfl, t.service.answer_queue t.endpoint c⟩
    | some m =>
      rw [ask_amiss asks fate]
      refine ⟨_, rfl, ?_⟩
      rw [published_amiss]
      exact (List.append_nil _).symm

theorem run_grows (t : Solo σ) (turns : List Turn) :
    ∃ made, Grows t (t.run limit mishaps turns) made := by
  induction turns generalizing t with
  | nil => exact ⟨[], .of_same rfl rfl⟩
  | cons turn later ih =>
    obtain ⟨more, rest⟩ := ih (t.step limit mishaps turn)
    cases turn with
    | cycle =>
      obtain ⟨made, first⟩ := ask_grows limit mishaps t
      exact ⟨_, first.trans rest⟩
    | client c =>
      have first : Grows t (t.step limit mishaps (.client c)) [] :=
        .of_same rfl (t.service.serve_broker c)
      exact ⟨_, first.trans rest⟩

end Solo
end Agenda
