import Agenda.Proofs.Cleanup.Concurrent
import Agenda.Proofs.Conversation
import Agenda.Proofs.Scheduler.Ending
import Agenda.Proofs.Service
import Agenda.Proofs.Storage.Ranges

/-! A dispatch cycle and a cleanup cycle that go on at the same time. As long as the one does not
look for what the other takes away, it makes no difference how they take turns. -/
namespace Agenda

/-! ## A cycle whose calls may fail -/

/-- How the calls of a cycle go, each by its number and by what is called. -/
abbrev Luck := Nat → Call → Call.Fortune

/-- A cycle with its calls so far, what it was told and what it has logged, the latest first. -/
structure Rider (σ : Type) where
  state : σ
  calls : List Answered
  notices : List Notice

namespace Rider

variable {σ : Type} [Machine σ]

def start (state : σ) : Rider σ := ⟨state, [], []⟩

/-- The cycle is told something. -/
def told (rider : Rider σ) {c : Call} (next : c.Answer → σ × List Notice) (a : c.Answer) :
    Rider σ :=
  ⟨(next a).1, ⟨c, a⟩ :: rider.calls, (next a).2 ++ rider.notices⟩

/-- The cycle makes its next call. -/
def step (luck : Luck) (rider : Rider σ) (x : Endpoint) (s : LocalService) :
    Rider σ × Endpoint × LocalService :=
  match Machine.move rider.state with
  | .ask c next =>
    let (a, x, s) := s.attempt (luck rider.calls.length c) x c
    (rider.told next a, x, s)
  | _ => (rider, x, s)

variable {luck : Luck} {rider : Rider σ} {c : Call} {next : c.Answer → σ × List Notice}

theorem step_asks (move : Machine.move rider.state = .ask c next) (x : Endpoint)
    (s : LocalService) :
    rider.step luck x s =
      (rider.told next (s.attempt (luck rider.calls.length c) x c).1,
        (s.attempt (luck rider.calls.length c) x c).2) := by
  simp only [step, move]

theorem step_halts (move : Machine.move rider.state = .halt) (x : Endpoint) (s : LocalService) :
    rider.step luck x s = (rider, x, s) := by
  simp only [step, move]

end Rider

theorem Dispatch.move_cases (state : Dispatch) :
    state = .finished ∨
    (∃ window next, state = .query window ∧
      Machine.move state = .ask (.findByRemindIn window) next) ∨
    ∃ call next, Machine.move state = .ask (.produce call) next := by
  cases state with
  | query window => exact .inr (.inl ⟨window, _, rfl, rfl⟩)
  | openChannel | publish | closeChannel => exact .inr (.inr ⟨_, _, rfl⟩)
  | finished => exact .inl rfl

theorem Dispatch.left_le (state : Dispatch) : state.left ≤ toLex (1, 0) := by
  cases state with
  | query window => exact le_rfl
  | openChannel | publish | closeChannel | finished => exact (queried _).le

theorem Cleanup.move_cases (state : Cleanup) :
    state = .finished ∨
    (∃ window next, state = .query window ∧
      Machine.move state = .ask (.findByStartDate window) next) ∨
    ∃ e later count next, state = .delete e later count ∧
      Machine.move state = .ask (.delete e.id) next := by
  cases state with
  | query window => exact .inr (.inl ⟨window, _, rfl, rfl⟩)
  | delete e later count => exact .inr (.inr ⟨e, later, count, _, rfl, rfl⟩)
  | finished => exact .inl rfl

/-! ## What the calls of the cycles depend on -/

namespace LocalService

variable {s : LocalService}

theorem with_broker {t : LocalService} (same : t.broker = s.broker) :
    { t with broker := s.broker } = t := by
  rw [← same]

theorem with_events {t : LocalService} (same : t.events = s.events) :
    { t with events := s.events } = t := by
  rw [← same]

/-- Where a call is answered alike, it also fails alike. -/
theorem attempt_alike {δ : Type} {c : Call} {a : c.Answer} (fortune : Call.Fortune)
    (alike : Endpoint → LocalService → Prop)
    (change : δ → Endpoint → LocalService → Endpoint × LocalService) (still done : δ)
    (idle : ∀ x t, alike x t → change still x t = (x, t))
    (answered : ∀ x t, alike x t → t.answer x c = (a, change done x t)) :
    ∃ b d, ∀ x t, alike x t → attempt fortune t x c = (b, change d x t) := by
  cases fortune with
  | well => exact ⟨a, done, answered⟩
  | lost storage broker =>
    refine ⟨c.failed storage broker, still, fun x t same => ?_⟩
    rw [idle x t same]
    rfl
  | late storage broker =>
    refine ⟨c.failed storage broker, done, fun x t same => ?_⟩
    simp only [attempt, answered x t same]

/-- A call of a producer looks at the broker, and changes nothing else. -/
theorem answer_produce (s : LocalService) (x : Endpoint) (call : ProducerCall) :
    ∃ a endpoint broker, ∀ t : LocalService, t.broker = s.broker →
      t.answer x (.produce call) = (a, endpoint, { t with broker }) := by
  refine ⟨(s.answer x (.produce call)).1, (s.answer x (.produce call)).2.1,
    (s.answer x (.produce call)).2.2.broker, ?_⟩
  intro t same
  cases call with
  | openChannel | closeChannel | closeConnection =>
    change _ = (_, _, { t with broker := s.broker })
    rw [with_broker same]
    rfl
  | publish payload =>
    cases isOpen : x.producer.isOpen with
    | true => rw [t.answer_publish isOpen, s.answer_publish isOpen, same]
    | false => rw [t.answer_publish_closed isOpen, s.answer_publish_closed isOpen, with_broker same]

theorem attempt_produce (fortune : Call.Fortune) (s : LocalService) (x : Endpoint)
    (call : ProducerCall) : ∃ a endpoint broker, ∀ t : LocalService, t.broker = s.broker →
      t.attempt fortune x (.produce call) = (a, endpoint, { t with broker }) := by
  obtain ⟨a, endpoint, broker, answered⟩ := s.answer_produce x call
  obtain ⟨b, d, attempted⟩ := attempt_alike fortune (fun y t => y = x ∧ t.broker = s.broker)
    (fun d _ t => (d.1, { t with broker := d.2 })) (x, s.broker) (endpoint, broker)
    (fun y t same => by rw [same.1, with_broker same.2])
    (fun y t same => by rw [same.1]; exact answered t same.2)
  exact ⟨b, d.1, d.2, fun t same => attempted x t ⟨rfl, same⟩⟩

/-- A deletion looks at the events, and changes nothing else. -/
theorem answer_delete (s : LocalService) (id : String) :
    ∃ a events, ∀ (t : LocalService) (x : Endpoint), t.events = s.events →
      t.answer x (.delete id) = (a, x, { t with events }) := by
  refine ⟨(s.storing (s.events.delete id)).1, (s.storing (s.events.delete id)).2.events, ?_⟩
  intro t x same
  simp only [answer, same]
  cases s.events.delete id with
  | ok events => rfl
  | error e => simp only [storing, with_events same]

theorem attempt_delete (fortune : Call.Fortune) (s : LocalService) (id : String) :
    ∃ a events, ∀ (t : LocalService) (x : Endpoint), t.events = s.events →
      t.attempt fortune x (.delete id) = (a, x, { t with events }) := by
  obtain ⟨a, events, answered⟩ := s.answer_delete id
  obtain ⟨b, events, attempted⟩ := attempt_alike fortune (fun _ t => t.events = s.events)
    (fun events x t => (x, { t with events })) s.events events
    (fun x t same => by rw [with_events same])
    (fun x t same => answered t x same)
  exact ⟨b, events, fun t x same => attempted x t same⟩

/-- A query that is answered alike goes alike. -/
theorem attempt_query (fortune : Call.Fortune) {c : Call} (a : c.Answer) : ∃ b,
    ∀ (t : LocalService) (x : Endpoint), t.answer x c = (a, x, t) →
      t.attempt fortune x c = (b, x, t) := by
  obtain ⟨b, _, attempted⟩ := attempt_alike fortune (fun x t => t.answer x c = (a, x, t))
    (fun (_ : Unit) x t => (x, t)) () () (fun _ _ _ => rfl) (fun _ _ answered => answered)
  exact ⟨b, fun t x answered => attempted x t answered⟩

end LocalService

/-! ## Both cycles -/

/-- A dispatch and a cleanup cycle on one service. Only the first has a producer. -/
structure Tandem where
  dispatch : Rider Dispatch
  cleanup : Rider Cleanup
  endpoint : Endpoint
  service : LocalService

namespace Tandem

inductive Turn
  | dispatch
  | cleanup

def start (dispatch : Dispatch) (cleanup : Cleanup) (x : Endpoint) (s : LocalService) : Tandem :=
  ⟨.start dispatch, .start cleanup, x, s⟩

def step (luck : Turn → Luck) (t : Tandem) : Turn → Tandem
  | .dispatch =>
    let (dispatch, endpoint, service) := t.dispatch.step (luck .dispatch) t.endpoint t.service
    { t with dispatch, endpoint, service }
  | .cleanup =>
    let (cleanup, endpoint, service) := t.cleanup.step (luck .cleanup) t.endpoint t.service
    { t with cleanup, endpoint, service }

def run (luck : Turn → Luck) (t : Tandem) (turns : List Turn) : Tandem := turns.foldl (step luck) t

variable (luck : Turn → Luck) (t : Tandem)

/-- A dispatch cycle looks at the broker, and at the events only for what is in its window. -/
theorem step_dispatch : ∃ dispatch endpoint broker,
    ∀ (cleanup : Rider Cleanup) (service : LocalService), service.broker = t.service.broker →
    (∀ window, t.dispatch.state = .query window →
      service.events.findByRemindIn window = t.service.events.findByRemindIn window) →
    (⟨t.dispatch, cleanup, t.endpoint, service⟩ : Tandem).step luck .dispatch =
      ⟨dispatch, cleanup, endpoint, { service with broker }⟩ := by
  rcases t.dispatch.state.move_cases with ended | ⟨window, next, querying, asks⟩ |
    ⟨call, next, asks⟩
  · refine ⟨t.dispatch, t.endpoint, t.service.broker, fun cleanup service same _ => ?_⟩
    have halts : Machine.move t.dispatch.state = .halt := ended ▸ rfl
    simp only [step, Rider.step_halts halts, LocalService.with_broker same]
  · obtain ⟨a, attempted⟩ := LocalService.attempt_query (c := .findByRemindIn window)
      (luck .dispatch t.dispatch.calls.length (.findByRemindIn window))
      (t.service.events.findByRemindIn window)
    refine ⟨t.dispatch.told next a, t.endpoint, t.service.broker, ?_⟩
    intro cleanup service same found
    have answered : service.answer t.endpoint (.findByRemindIn window) =
        (t.service.events.findByRemindIn window, t.endpoint, service) := by
      rw [← found window querying]
      rfl
    simp only [step, Rider.step_asks asks, attempted _ _ answered, LocalService.with_broker same]
  · obtain ⟨a, endpoint, broker, attempted⟩ := t.service.attempt_produce
      (luck .dispatch t.dispatch.calls.length (.produce call)) t.endpoint call
    refine ⟨t.dispatch.told next a, endpoint, broker, fun cleanup service same _ => ?_⟩
    simp only [step, Rider.step_asks asks, attempted _ same]

/-- A cleanup cycle looks at the events, and changes nothing else. -/
theorem step_cleanup : ∃ cleanup events, ∀ (dispatch : Rider Dispatch) (endpoint : Endpoint)
    (service : LocalService), service.events = t.service.events →
    (⟨dispatch, t.cleanup, endpoint, service⟩ : Tandem).step luck .cleanup =
      ⟨dispatch, cleanup, endpoint, { service with events }⟩ := by
  rcases t.cleanup.state.move_cases with ended | ⟨window, next, -, asks⟩ |
    ⟨e, later, count, next, -, asks⟩
  · refine ⟨t.cleanup, t.service.events, fun dispatch endpoint service same => ?_⟩
    have halts : Machine.move t.cleanup.state = .halt := ended ▸ rfl
    simp only [step, Rider.step_halts halts, LocalService.with_events same]
  · obtain ⟨a, attempted⟩ := LocalService.attempt_query (c := .findByStartDate window)
      (luck .cleanup t.cleanup.calls.length (.findByStartDate window))
      (t.service.events.findByStartDate window)
    refine ⟨t.cleanup.told next a, t.service.events, fun dispatch endpoint service same => ?_⟩
    have answered : service.answer endpoint (.findByStartDate window) =
        (t.service.events.findByStartDate window, endpoint, service) := by
      rw [← same]
      rfl
    simp only [step, Rider.step_asks asks, attempted _ _ answered, LocalService.with_events same]
  · obtain ⟨a, events, attempted⟩ := t.service.attempt_delete
      (luck .cleanup t.cleanup.calls.length (.delete e.id)) e.id
    refine ⟨t.cleanup.told next a, events, fun dispatch endpoint service same => ?_⟩
    simp only [step, Rider.step_asks asks, attempted _ _ same]

/-- Of the events a turn of the cleanup cycle takes away at most the next one that it has found. -/
theorem step_cleanup_events (id : String) :
    (t.step luck .cleanup).service.events.find? id = t.service.events.find? id ∨
      (t.step luck .cleanup).service.events.find? id = none ∧
        ∃ e later count, t.cleanup.state = .delete e later count ∧ e.id = id := by
  rcases t.cleanup.state.move_cases with ended | ⟨window, next, -, asks⟩ |
    ⟨e, later, count, next, state, asks⟩
  · have halts : Machine.move t.cleanup.state = .halt := ended ▸ rfl
    simp only [step, Rider.step_halts halts, true_or]
  · simp only [step, Rider.step_asks asks]
    rcases LocalService.attempt_state t.service t.endpoint
      (luck .cleanup t.cleanup.calls.length (.findByStartDate window)) (.findByStartDate window)
      with same | same <;> rw [same] <;> exact .inl rfl
  · simp only [step, Rider.step_asks asks]
    rcases LocalService.attempt_state t.service t.endpoint
      (luck .cleanup t.cleanup.calls.length (.delete e.id)) (.delete e.id)
      with same | carriedOut
    · rw [same]
      exact .inl rfl
    · rw [carriedOut, t.service.find?_delete t.endpoint e.id id]
      split
      · exact .inr ⟨rfl, e, later, count, state, Eq.symm ‹_›⟩
      · exact .inl rfl

end Tandem

/-! ## The end of both -/

namespace Tandem

def Done (t : Tandem) : Turn → Prop
  | .dispatch => t.dispatch.state = .finished
  | .cleanup => t.cleanup.state = .finished

/-- What a cycle has left to do. -/
def height (t : Tandem) : Turn → ℕ ×ₗ ℕ
  | .dispatch => t.dispatch.state.left
  | .cleanup => t.cleanup.state.left

variable (luck : Turn → Luck) (t : Tandem)

variable {luck} {t} in
theorem step_of_done {turn : Turn} (done : t.Done turn) : t.step luck turn = t := by
  cases turn with
  | dispatch =>
    have halts : Machine.move t.dispatch.state = .halt := congrArg Machine.move done
    simp only [step, Rider.step_halts halts]
  | cleanup =>
    have halts : Machine.move t.cleanup.state = .halt := congrArg Machine.move done
    simp only [step, Rider.step_halts halts]

theorem step_lower (turn : Turn) :
    t.Done turn ∨ (t.step luck turn).height turn < t.height turn := by
  cases turn with
  | dispatch =>
    rcases t.dispatch.state.move_cases with ended | ⟨_, _, -, asks⟩ | ⟨_, _, asks⟩
    · exact .inl ended
    · simp only [step, Rider.step_asks asks]
      exact .inr (dispatch_winding _ _ _ _ asks)
    · simp only [step, Rider.step_asks asks]
      exact .inr (dispatch_winding _ _ _ _ asks)
  | cleanup =>
    rcases t.cleanup.state.move_cases with ended | ⟨_, _, -, asks⟩ | ⟨_, _, _, _, -, asks⟩
    · exact .inl ended
    · simp only [step, Rider.step_asks asks]
      exact .inr (cleanup_winding _ _ _ _ asks)
    · simp only [step, Rider.step_asks asks]
      exact .inr (cleanup_winding _ _ _ _ asks)

/-- A cycle that has its turn again and again comes to its end. -/
theorem ends (turn : Turn) : ∃ n, (t.run luck (List.replicate n turn)).Done turn := by
  generalize reached : t.height turn = h
  induction h using WellFoundedLT.induction generalizing t with
  | ind h ih =>
    rcases t.step_lower luck turn with done | lower
    · exact ⟨0, done⟩
    · obtain ⟨n, done⟩ := ih _ (reached ▸ lower) (t.step luck turn) rfl
      exact ⟨n + 1, done⟩

/-- Only its own turns bring a cycle to its end. -/
theorem run_done_iff {turn other : Turn} (apart : other ≠ turn) (n : Nat) :
    (t.run luck (List.replicate n turn)).Done other ↔ t.Done other := by
  induction n generalizing t with
  | zero => rfl
  | succ n ih =>
    refine (ih (t.step luck turn)).trans ?_
    cases turn <;> cases other
    · exact absurd rfl apart
    · rfl
    · rfl
    · exact absurd rfl apart

/-- When both cycles are done, nothing happens any more. -/
theorem run_of_done (done : ∀ turn, t.Done turn) (turns : List Turn) : t.run luck turns = t := by
  induction turns with
  | nil => rfl
  | cons turn later ih =>
    have same : t.step luck turn = t := step_of_done (done turn)
    rw [run, List.foldl_cons, same]
    exact ih

theorem run_append (turns later : List Turn) :
    t.run luck (turns ++ later) = (t.run luck turns).run luck later := List.foldl_append

end Tandem

/-! ## Turns in any order -/

/-- The events that a cleanup cycle may still remove. -/
def Cleanup.Targets (e : Event) : Cleanup → Prop
  | .query window => window.contains e.startDate = true
  | .delete d later _ => e.id ∈ (d :: later).map Event.id
  | .finished => False

theorem Cleanup.targets_proceed {e : Event} {count : Nat} {notices : List Notice}
    {found : List Event} (h : (proceed count notices found).1.Targets e) :
    e.id ∈ found.map Event.id := by
  cases found with
  | nil => exact h.elim
  | cons d later => exact h

namespace Tandem

/-- The dispatch cycle will not find what the cleanup cycle may still remove. -/
structure Apart (t : Tandem) : Prop where
  keyed : t.service.events.Keyed Event.id
  apart : ∀ window, t.dispatch.state = .query window → ∀ e, t.service.events.Holds e →
    t.cleanup.state.Targets e → window.contains e.remindIn = false

namespace Apart

variable {luck : Turn → Luck} {t : Tandem}

/-- A cleanup cycle aims at nothing new. -/
theorem aims (h : t.Apart) {e : Event} (stored : t.service.events.Holds e)
    (aimed : (t.step luck .cleanup).cleanup.state.Targets e) : t.cleanup.state.Targets e := by
  cases state : t.cleanup.state with
  | finished =>
    have halts : Machine.move t.cleanup.state = .halt := congrArg Machine.move state
    simp only [Tandem.step, Rider.step_halts halts] at aimed
    exact state ▸ aimed
  | query window =>
    simp only [Tandem.step, Rider.step_asks (congrArg Machine.move state)] at aimed
    generalize luck .cleanup t.cleanup.calls.length (.findByStartDate window) = fortune at aimed
    rcases LocalService.attempt_told t.service t.endpoint fortune (.findByStartDate window)
      with told | ⟨storage, broker, told⟩
    · rw [told] at aimed
      generalize answered : (t.service.answer t.endpoint (.findByStartDate window)).1 = a at aimed
      rcases a with error | found
      · cases error <;> exact aimed.elim
      · obtain ⟨d, member, own⟩ := List.mem_map.mp (Cleanup.targets_proceed aimed)
        rw [(Query.answer_eq_ok.mp answered).1, Query.mem_select, Collection.mem_items_iff h.keyed,
          own] at member
        obtain rfl : e = d := Option.some.inj (stored.symm.trans member.1)
        exact member.2
    · rw [told] at aimed
      cases storage <;> exact aimed.elim
  | delete d later count =>
    simp only [Tandem.step, Rider.step_asks (congrArg Machine.move state)] at aimed
    generalize (t.service.attempt _ t.endpoint (.delete d.id)).1 = a at aimed
    have left : e.id ∈ later.map Event.id := by
      rcases a with error | done
      · cases error <;> exact Cleanup.targets_proceed aimed
      · exact Cleanup.targets_proceed aimed
    exact .tail _ left

/-- What is stored after a turn of the cleanup cycle was stored before. -/
theorem stored_before {id : String} {e : Event}
    (stored : (t.step luck .cleanup).service.events.find? id = some e) :
    t.service.events.find? id = some e := by
  rcases t.step_cleanup_events luck id with same | ⟨gone, -⟩
  · exact same ▸ stored
  · rw [gone] at stored
    cases stored

/-- Whatever the cleanup cycle removes, the query of the dispatch cycle is answered alike. -/
theorem undisturbed (h : t.Apart) {window : TimeSpan}
    (querying : t.dispatch.state = .query window) :
    (t.step luck .cleanup).service.events.findByRemindIn window =
      t.service.events.findByRemindIn window := by
  have keyed : (t.step luck .cleanup).service.events.Keyed Event.id :=
    fun id e stored => h.keyed id e (stored_before stored)
  refine (EventStore.exact_items keyed).unique ((EventStore.exact_items h.keyed).within ?_)
  intro e inside
  refine ⟨stored_before, fun stored => ?_⟩
  rcases t.step_cleanup_events luck e.id with same | ⟨-, d, later, count, state, own⟩
  · exact same.trans stored
  · have aimed : t.cleanup.state.Targets e := by
      rw [state]
      exact List.mem_map.mpr ⟨d, .head _, own⟩
    have outside := h.apart window querying e stored aimed
    rw [(TimeSpan.contains_iff _ _).mpr inside] at outside
    cases outside

/-- The order of two turns makes no difference. -/
theorem step_comm (h : t.Apart) : (t.step luck .dispatch).step luck .cleanup =
    (t.step luck .cleanup).step luck .dispatch := by
  obtain ⟨dispatch, endpoint, broker, dispatches⟩ := t.step_dispatch luck
  obtain ⟨cleanup, events, cleans⟩ := t.step_cleanup luck
  have first : t.step luck .dispatch = ⟨dispatch, t.cleanup, endpoint, { t.service with broker }⟩ :=
    dispatches t.cleanup t.service rfl fun _ _ => rfl
  have second : t.step luck .cleanup =
      ⟨t.dispatch, cleanup, t.endpoint, { t.service with events }⟩ :=
    cleans t.dispatch t.endpoint t.service rfl
  have found (window : TimeSpan) (querying : t.dispatch.state = .query window) :
      events.findByRemindIn window = t.service.events.findByRemindIn window := by
    have same : (t.step luck .cleanup).service.events.findByRemindIn window = _ :=
      h.undisturbed querying
    rwa [second] at same
  calc (t.step luck .dispatch).step luck .cleanup
    _ = ⟨dispatch, cleanup, endpoint, { t.service with broker, events }⟩ := by
        rw [first]
        exact cleans _ _ _ rfl
    _ = (t.step luck .cleanup).step luck .dispatch := by
        rw [second]
        exact (dispatches cleanup { t.service with events } rfl found).symm

theorem step (h : t.Apart) (turn : Turn) : (t.step luck turn).Apart := by
  cases turn with
  | dispatch =>
    obtain ⟨dispatch, endpoint, broker, dispatches⟩ := t.step_dispatch luck
    have after := dispatches t.cleanup t.service rfl fun _ _ => rfl
    refine ⟨by rw [after]; exact h.keyed, ?_⟩
    -- The dispatch cycle has made its query, if it had not done so before.
    intro window querying
    rcases t.step_lower luck .dispatch with done | lower
    · rw [step_of_done done, done] at querying
      cases querying
    · have below := t.dispatch.state.left_le
      rw [height, querying] at lower
      exact absurd lower (not_lt_of_ge below)
  | cleanup =>
    obtain ⟨cleanup, events, cleans⟩ := t.step_cleanup luck
    have after := cleans t.dispatch t.endpoint t.service rfl
    refine ⟨fun id e stored => h.keyed id e (stored_before stored), ?_⟩
    intro window querying e stored aimed
    have before := stored_before stored
    exact h.apart window (by rw [← querying, after]) e before (h.aims before aimed)

/-- Turns may be taken in any order. -/
theorem run_perm (h : t.Apart) {turns other : List Turn} (perm : turns.Perm other) :
    t.run luck turns = t.run luck other := by
  induction perm generalizing t with
  | nil => rfl
  | cons turn _ ih => exact ih (h.step turn)
  | swap a b later =>
    cases a <;> cases b
    · rfl
    · exact congrArg (·.run luck later) h.step_comm.symm
    · exact congrArg (·.run luck later) h.step_comm
    · rfl
  | trans _ _ first second => exact (first h).trans (second h)

end Apart

/-- One cycle comes to its end before the other begins. -/
def Serial (luck : Turn → Luck) (first second : Turn) (t last : Tandem) : Prop :=
  ∃ m n, (t.run luck (List.replicate m first)).Done first ∧
    t.run luck (List.replicate m first ++ List.replicate n second) = last

end Tandem

open Tandem in
/-- **Dispatch and cleanup do not disturb each other.** If no event is at once in the window of the
dispatch cycle and in that of the cleanup cycle, then both come to the same end however they take
turns and however their calls go, and it is the end to which they come one after the other, in
either order: the same calls with the same answers in the same order, the same log, the same queue
and the same events. -/
theorem dispatch_cleanup_commute (luck : Turn → Luck) (now later : Timestamp)
    (interval pace : Duration) (x : Endpoint) (s : LocalService)
    (keyed : s.events.Keyed Event.id)
    (apart : ∀ e, s.events.Holds e → ¬ ((Dispatch.window now interval).contains e.remindIn = true ∧
      (Cleanup.window later pace).contains e.startDate = true)) :
    let both := Tandem.start (.start now interval) (.start later pace) x s
    ∃ last : Tandem, (∀ turn, last.Done turn) ∧
      Serial luck .dispatch .cleanup both last ∧ Serial luck .cleanup .dispatch both last ∧
      ∀ turns, (∃ more, both.run luck (turns ++ more) = last) ∧
        ((∀ turn, (both.run luck turns).Done turn) → both.run luck turns = last) := by
  intro both
  have h : both.Apart := by
    refine ⟨keyed, ?_⟩
    rintro window ⟨⟩ e stored aimed
    exact Bool.eq_false_iff.mpr fun inside => apart e stored ⟨inside, aimed⟩
  obtain ⟨m, dispatched⟩ := both.ends luck .dispatch
  obtain ⟨n, cleaned⟩ := (both.run luck (List.replicate m .dispatch)).ends luck .cleanup
  have swapped : both.run luck (List.replicate m .dispatch ++ List.replicate n .cleanup) =
      both.run luck (List.replicate n .cleanup ++ List.replicate m .dispatch) :=
    h.run_perm List.perm_append_comm
  have done : ∀ turn,
      (both.run luck (List.replicate m .dispatch ++ List.replicate n .cleanup)).Done turn := by
    rintro (_ | _) <;> rw [run_append]
    · exact (run_done_iff luck _ (nofun : Turn.dispatch ≠ .cleanup) n).mpr dispatched
    · exact cleaned
  refine ⟨_, done, ⟨m, n, dispatched, rfl⟩, ⟨n, m, ?_, swapped.symm⟩, ?_⟩
  · rw [swapped, run_append] at done
    exact (run_done_iff luck _ (nofun : Turn.cleanup ≠ .dispatch) m).mp (done .cleanup)
  · intro turns
    have onward :
        both.run luck (turns ++ (List.replicate m .dispatch ++ List.replicate n .cleanup)) =
        both.run luck (List.replicate m .dispatch ++ List.replicate n .cleanup) := by
      rw [h.run_perm List.perm_append_comm, run_append, run_of_done luck _ done]
    refine ⟨⟨_, onward⟩, ?_⟩
    intro ended
    rw [← onward, run_append, run_of_done luck _ ended]

namespace Tandem

open Cleanup.Joint (november minute expired)

/-! An event of last year and one that is due for a reminder, whose notification is published too
late for the cycle to be told. -/

def due : Event :=
  ⟨"b", "", ⟨1700000100, by decide, by decide⟩, .greatest, "", "",
    ⟨1700000010, by decide, by decide⟩⟩

def stored : LocalService := (LocalService.new 5).serveAll [.insert expired, .insert due]

def unlucky : Turn → Luck
  | .dispatch => fun n _ => if n = 2 then .late .empty .channelNotOpen else .well
  | .cleanup => fun _ _ => .well

def alternating : List Turn := [.dispatch, .cleanup, .dispatch, .cleanup, .dispatch, .dispatch]

theorem alternating_as_serial :
    let both := Tandem.start (.start november minute) (.start november minute) .new stored
    stored.events.Keyed Event.id ∧
      (∀ e, stored.events.Holds e →
        ¬ ((Dispatch.window november minute).contains e.remindIn = true ∧
          (Cleanup.window november minute).contains e.startDate = true)) ∧
      (both.run unlucky alternating).service.events.items = [due] ∧
      (both.run unlucky alternating).service.broker.queue.messages.map (·.payload) =
        [(Notification.ofEvent due).toBytes] ∧
      Serial unlucky .dispatch .cleanup both (both.run unlucky alternating) ∧
      Serial unlucky .cleanup .dispatch both (both.run unlucky alternating) := by
  intro both
  have keyed : stored.events.Keyed Event.id :=
    LocalService.serveAll_keyed Collection.keyed_empty _
  have apart (e : Event) (holds : stored.events.Holds e) :
      ¬ ((Dispatch.window november minute).contains e.remindIn = true ∧
        (Cleanup.window november minute).contains e.startDate = true) := by
    have items : stored.events.items = [expired, due] := by cbv
    have member : e ∈ stored.events.items := (Collection.mem_items_iff keyed).mpr holds
    simp only [items, List.mem_cons, List.not_mem_nil, or_false] at member
    rcases member with rfl | rfl <;> decide
  obtain ⟨last, -, dispatchFirst, cleanupFirst, all⟩ :=
    dispatch_cleanup_commute unlucky november november minute minute .new stored keyed apart
  have done (turn : Turn) : (both.run unlucky alternating).Done turn := by
    cases turn <;> cbv
  have same : both.run unlucky alternating = last := (all alternating).2 done
  refine ⟨keyed, apart, ?_, ?_, same.symm ▸ dispatchFirst, same.symm ▸ cleanupFirst⟩
  · cbv
  · cbv

end Tandem
end Agenda
