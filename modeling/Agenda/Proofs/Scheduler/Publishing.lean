import Mathlib
import Agenda.Proofs.Scheduler.Outcome
import Agenda.Proofs.Scheduler.Reminders
import Agenda.Proofs.Wire

/-! What the dispatch cycles of a run publish. A cycle publishes notifications of events of its
window only, of an event that stays stored at most one, and exactly one if no call of it fails. -/
namespace Agenda.Rehearsal

/-- What is published of an event. -/
def payload (e : Event) : Bytes := (Notification.ofEvent e).toBytes

/-- The payloads that have come into the queue. -/
def arrivals (before after : Stage) : List Bytes :=
  (after.service.broker.queue.messages.drop before.service.broker.queue.messages.length).map
    (·.payload)

/-- What a step of the dispatcher adds to what each cycle has published, the last cycle first. -/
def issue (grown : List Bytes) :
    Worker Dispatch → Worker Dispatch → List (List Bytes) → List (List Bytes)
  | .waiting _, .cycling _ _, published => [] :: published
  | .cycling _ _, _, out :: older => (out ++ grown) :: older
  | _, _, published => published

/-- Runs with what each of their cycles has published. -/
inductive Diary (pace : Pace) (holds : Stage → Prop) (origin : Stage) :
    Course → List (List Bytes) → Prop
  | start (seat : Seat) : holds origin → Diary pace holds origin (.start seat origin) []
  | dispatcher {x : Course} {published : List (List Bytes)} {t : Nat} :
      Diary pace holds origin x published → x.scheduler.dispatcherDue x.stage = some t →
      t ≤ x.stage.time → holds (x.dispatch pace).stage →
      Diary pace holds origin (x.dispatch pace)
        (issue (arrivals x.stage (x.dispatch pace).stage) x.scheduler.dispatcher
          (x.dispatch pace).scheduler.dispatcher published)
  | cleaner {x : Course} {published : List (List Bytes)} {t : Nat} :
      Diary pace holds origin x published → x.scheduler.cleanerDue x.stage = some t →
      t ≤ x.stage.time → holds (x.cleanup pace).stage →
      Diary pace holds origin (x.cleanup pace) published
  | supervisor {x : Course} {published : List (List Bytes)} {t : Nat} :
      Diary pace holds origin x published → x.scheduler.due x.stage = some t →
      t ≤ x.stage.time → holds (x.supervise pace).stage →
      Diary pace holds origin (x.supervise pace) published
  | others {x : Course} {published : List (List Bytes)} (stage : Stage) :
      Diary pace holds origin x published → stage.base = x.stage.base →
      x.stage.time ≤ stage.time → (∀ t, x.Due t → stage.time ≤ max t x.stage.time) →
      holds stage → Diary pace holds origin { x with stage } published

namespace Diary

variable {pace : Pace} {holds : Stage → Prop} {origin : Stage} {x : Course}
  {published : List (List Bytes)}

theorem run (h : Diary pace holds origin x published) : Course.Run pace holds x := by
  induction h with
  | start seat first => exact .start seat first
  | dispatcher _ due past now ih => exact .step ih (.dispatcher due past) now
  | cleaner _ due past now ih => exact .step ih (.cleaner due past) now
  | supervisor _ due past now ih => exact .step ih (.supervisor due past) now
  | others stage _ clock later punctual now ih =>
    exact .step ih (.others stage clock later punctual) now

/-- A diary can be continued whatever happens. -/
theorem step {y : Course} (h : Diary pace holds origin x published) (next : Course.Step pace x y)
    (now : holds y.stage) : ∃ later, Diary pace holds origin y later := by
  cases next with
  | dispatcher due past => exact ⟨_, .dispatcher h due past now⟩
  | cleaner due past => exact ⟨_, .cleaner h due past now⟩
  | supervisor due past => exact ⟨_, .supervisor h due past now⟩
  | others stage clock later punctual => exact ⟨_, .others stage h clock later punctual now⟩

theorem of_run (h : Course.Run pace holds x) :
    ∃ origin published, Diary pace holds origin x published := by
  induction h with
  | start seat first => exact ⟨_, [], .start seat first⟩
  | step _ next now ih =>
    obtain ⟨origin, published, diary⟩ := ih
    exact ⟨origin, diary.step next now⟩

theorem follow {check : Stage → Bool} (sound : ∀ s, check s = true → holds s) {y : Course}
    {cues : List Course.Cue} (h : Diary pace holds origin x published)
    (followed : x.follow? pace check cues = some y) :
    ∃ later, Diary pace holds origin y later := by
  induction cues generalizing x published with
  | nil => exact Option.some.inj followed ▸ ⟨published, h⟩
  | cons c later ih =>
    obtain ⟨z, next, rest⟩ := Option.bind_eq_some_iff.mp followed
    split at rest
    · obtain ⟨published', diary⟩ := h.step (Course.step_of_cue next) (sound _ ‹_›)
      exact ih diary rest
    · cases rest

end Diary

/-! ## A cycle, step by step -/

def remindersIn (events : EventStore) (window : TimeSpan) : List Event :=
  Query.select (·.remindsWithin window) (·.remindIn) events.items

theorem mem_remindersIn {events : EventStore} {window : TimeSpan} {d : Event} :
    d ∈ remindersIn events window ↔ d ∈ events.items ∧ window.contains d.remindIn = true :=
  Query.mem_select

/-- The event is stored, and all others under their own ids too. -/
structure Stored (e : Event) (s : Stage) : Prop where
  keyed : s.service.events.Keyed Event.id
  stored : s.service.events.find? e.id = some e

/-- Of events with different ids no two have one payload. -/
theorem payloads_nodup {events : EventStore} (keyed : events.Keyed Event.id) (window : TimeSpan) :
    ((remindersIn events window).map payload).Nodup := by
  have ids : (events.items.map Event.id).Nodup := Collection.ids_nodup keyed
  have items : (remindersIn events window).Nodup :=
    (List.mergeSort_perm _ _).nodup_iff.mpr ((List.Nodup.of_map _ ids).filter _)
  apply List.Nodup.map_on _ items
  intro d hd d' hd' same
  have same_id : d.id = d'.id :=
    congrArg Notification.eventId (Notification.toBytes_injective same)
  exact List.inj_on_of_nodup_map ids (mem_remindersIn.mp hd).1 (mem_remindersIn.mp hd').1 same_id

namespace Stored

variable {e : Event} {s : Stage} (h : Stored e s) (window : TimeSpan)
include h

/-- Only the event itself has its payload. -/
theorem payload_mem : payload e ∈ (remindersIn s.service.events window).map payload ↔
    window.contains e.remindIn = true := by
  have stored := (Collection.mem_items_iff h.keyed).mpr h.stored
  rw [List.mem_map]
  constructor
  · rintro ⟨d, found, same⟩
    obtain ⟨member, inside⟩ := mem_remindersIn.mp found
    have same_id : d.id = e.id :=
      congrArg Notification.eventId (Notification.toBytes_injective same)
    have ids := Collection.ids_nodup h.keyed
    rwa [List.inj_on_of_nodup_map ids member stored same_id] at inside
  · intro inside
    exact ⟨e, mem_remindersIn.mpr ⟨stored, inside⟩, rfl⟩

theorem payload_count :
    ((remindersIn s.service.events window).map payload).count (payload e) =
      if window.contains e.remindIn = true then 1 else 0 := by
  rw [(payloads_nodup h.keyed window).count]
  simp only [h.payload_mem window]

end Stored

/-- A payload is published by calls of these kinds. -/
def Serves (b : Bytes) : Call → Prop
  | .findByRemindIn _ | .produce .openChannel => True
  | .produce (.publish sent) => sent = b
  | _ => False

/-- The planned faults let all calls be carried out that publish a payload. -/
def Clear (limit : Duration) (b : Bytes) (plan : FaultPlan) : Prop :=
  ∀ c, Serves b c → Performer.Passes limit plan c

section Cycle

variable (holds : Stage → Prop) (b : Bytes) (smooth : Prop)

/-- What a cycle has published, against what it has found: nothing else, and if all goes smoothly,
one payload as often as it was found. -/
def Tally (out : List Bytes) (tried : List Event) : Prop :=
  out.Sublist (tried.map payload) ∧ (smooth → out.count b = (tried.map payload).count b)

/-- The cycle has found events of which these are left. -/
def Found (window : TimeSpan) (out : List Bytes) (later : List Event) : Prop :=
  ∃ s tried, holds s ∧ remindersIn s.service.events window = tried ++ later ∧
    Tally b smooth out tried

/-- How far a cycle has got. -/
def Account (window : TimeSpan) (out : List Bytes) : Dispatch → Prop
  | .query asked => asked = window ∧ out = []
  | .openChannel due => Found holds b smooth window out due
  | .publish d later _ => Found holds b smooth window out (d :: later)
  | .closeChannel _ | .finished => Found holds b smooth window out []

/-- A cycle that is about to publish has opened its channel. -/
def OpenFor (isOpen : Bool) : Dispatch → Prop
  | .publish _ _ _ => isOpen = true
  | .query _ | .openChannel _ | .closeChannel _ | .finished => True

theorem openFor_of_open {isOpen : Bool} (h : isOpen = true) (d : Dispatch) : OpenFor isOpen d := by
  cases d with
  | publish => exact h
  | query | openChannel | closeChannel | finished => trivial

/-- Nothing that a payload needs has gone wrong in a cycle. -/
structure Ready (p : Performer Dispatch) (isOpen : Bool) : Prop where
  active : p.Active
  unhindered : ∀ c next, Machine.move p.state = .ask c next → Serves b c → p.Unhindered
  channel : OpenFor isOpen p.state

end Cycle

def Scene.channelIsOpen (s : Scene) : Bool := s.seat.endpoint.producer.isOpen

theorem arrivals_same {s s' : Stage} (same : s'.service = s.service) : arrivals s s' = [] := by
  rw [arrivals, same, List.drop_length, List.map_nil]

section Step

variable {holds : Stage → Prop} {b : Bytes} {smooth : Prop} {window : TimeSpan} {out : List Bytes}
  {limit : Duration} {s s' : Scene}

theorem Ready.start {state : Dispatch} {isOpen : Bool} (channel : OpenFor isOpen state) :
    Ready b (.start state) isOpen where
  active := .inl rfl
  unhindered := fun _ _ _ _ => .inl rfl
  channel := channel

theorem Tally.skip {tried : List Event} (h : Tally b smooth out tried) {more : List Event}
    (others : smooth → ∀ d ∈ more, payload d ≠ b) : Tally b smooth out (tried ++ more) := by
  obtain ⟨within, often⟩ := h
  rw [Tally, List.map_append]
  refine ⟨within.trans (List.sublist_append_left _ _), fun sure => ?_⟩
  have absent : (more.map payload).count b = 0 := by
    rw [List.count_eq_zero, List.mem_map]
    rintro ⟨d, member, same⟩
    exact others sure d member same
  rw [List.count_append, absent, often sure, Nat.add_zero]

theorem Tally.publish {tried : List Event} (h : Tally b smooth out tried) (d : Event) :
    Tally b smooth (out ++ [payload d]) (tried ++ [d]) := by
  obtain ⟨within, often⟩ := h
  rw [Tally, List.map_append, List.map_singleton]
  refine ⟨within.append (.refl _), fun sure => ?_⟩
  rw [List.count_append, List.count_append, often sure]

/-- What a step of a cycle comes to. -/
structure Goes (holds : Stage → Prop) (b : Bytes) (smooth : Prop) (window : TimeSpan)
    (out : List Bytes) (s : Scene) (q : Performer Dispatch × Scene) : Prop where
  account : Account holds b smooth window (out ++ arrivals s.stage q.2.stage) q.1.state
  ready : smooth → q.1.phase = .crashed ∨ q.1.phase = .halted ∧ q.1.state = .finished ∨
    Ready b q.1 q.2.channelIsOpen

/-- A step comes to something if what its call comes to does, and a failure is no matter of the
payload if all goes smoothly. -/
theorem Goes.step {p : Performer Dispatch} {c : Call} {next : c.Answer → Dispatch × List Notice}
    (asks : Machine.move p.state = .ask c next) (ready : smooth → Ready b p s.channelIsOpen)
    (clear : smooth → Clear limit b s.stage.faults)
    (account : Account holds b smooth window out p.state)
    (served : ∀ s', (s'.seat.endpoint, s'.stage.service) =
      (s.stage.service.answer s.seat.endpoint c).2 →
      Goes holds b smooth window out s
        (.start (next (s.stage.service.answer s.seat.endpoint c).1).1, s'))
    (failed : ∀ storage broker s', Untouched s s' → (smooth → ¬ Serves b c) →
      Goes holds b smooth window out s (.start (next (c.failed storage broker)).1, s')) :
    Goes holds b smooth window out s (p.step (some limit) s) := by
  have outcome : p.Outcome limit c next s (p.step (some limit) s) :=
    Performer.step_outcome asks s
  generalize p.step (some limit) s = q at outcome
  cases outcome with
  | served after => exact served _ after
  | failed storage broker same hindered =>
    refine failed storage broker _ same fun sure serves => hindered ?_
    exact ⟨(ready sure).unhindered c next asks serves, clear sure c serves⟩
  | waits state same active unhindered =>
    constructor
    · rw [arrivals_same same.service, List.append_nil, state]
      exact account
    · intro sure
      have before := ready sure
      refine (active before.active).imp_right fun active => .inr ⟨active, ?_, ?_⟩
      · intro c' next' asks' serves
        rw [state, asks] at asks'
        cases asks'
        exact unhindered ⟨before.unhindered c next asks serves, clear sure c serves⟩
      · rw [state, Scene.channelIsOpen, same.seat]
        exact before.channel

theorem Goes.quiet {state : Dispatch} (same : s'.stage.service = s.stage.service)
    (account : Account holds b smooth window out state)
    (channel : smooth → OpenFor s'.channelIsOpen state) :
    Goes holds b smooth window out s (.start state, s') where
  account := by
    rw [arrivals_same same, List.append_nil]
    exact account
  ready := fun sure => .inr (.inr (.start (channel sure)))

/-- A cycle that ends early has published some of what it found. -/
theorem Found.abandon {later : List Event} (h : Found holds b smooth window out later)
    (others : smooth → ∀ d ∈ later, payload d ≠ b) : Found holds b smooth window out [] := by
  obtain ⟨s, tried, now, split, tally⟩ := h
  exact ⟨s, tried ++ later, now, by rw [split, List.append_nil], tally.skip others⟩

theorem Found.skip {d : Event} {later : List Event}
    (h : Found holds b smooth window out (d :: later)) (other : smooth → payload d ≠ b) :
    Found holds b smooth window out later := by
  obtain ⟨s, tried, now, split, tally⟩ := h
  refine ⟨s, tried ++ [d], now, by rw [split, List.append_cons], tally.skip fun sure e member => ?_⟩
  rw [List.mem_singleton.mp member]
  exact other sure

theorem Found.publish {d : Event} {later : List Event}
    (h : Found holds b smooth window out (d :: later)) :
    Found holds b smooth window (out ++ [payload d]) later := by
  obtain ⟨s, tried, now, split, tally⟩ := h
  exact ⟨s, tried ++ [d], now, by rw [split, List.append_cons], tally.publish d⟩

theorem Found.proceed {later : List Event} (h : Found holds b smooth window out later)
    (count : Nat) : Account holds b smooth window out (Dispatch.proceed count later) := by
  cases later <;> exact h

section Calls

variable {phase : Phase} (clear : smooth → Clear limit b s.stage.faults)
include clear

theorem goes_query (ready : smooth → Ready b ⟨.query window, phase⟩ s.channelIsOpen)
    (now : holds s.stage) :
    Goes holds b smooth window [] s (Performer.step (some limit) ⟨.query window, phase⟩ s) := by
  have asks : Machine.move (Performer.state ⟨Dispatch.query window, phase⟩) =
      .ask (.findByRemindIn window) _ := rfl
  have found : Found holds b smooth window [] (remindersIn s.stage.service.events window) :=
    ⟨s.stage, [], now, rfl, .slnil, fun _ => rfl⟩
  refine Goes.step asks ready clear ⟨rfl, rfl⟩ ?_ ?_
  · intro s' after
    have same : _ = s.stage.service := (Prod.mk.inj after).2
    rw [remindersIn] at found
    simp only [LocalService.answer, EventStore.findByRemindIn]
    generalize Query.select (·.remindsWithin window) (·.remindIn) s.stage.service.events.items =
      events at found
    cases answer : Query.answer events with
    | error error =>
      obtain ⟨rfl, rfl⟩ := Query.answer_eq_error.mp answer
      exact .quiet same found fun _ => trivial
    | ok due =>
      obtain ⟨rfl, -⟩ := Query.answer_eq_ok.mp answer
      exact .quiet same found fun _ => trivial
  · intro storage broker s' same fails
    have nothing := found.abandon fun sure => absurd trivial (fails sure)
    cases storage <;> exact .quiet same.service nothing fun _ => trivial

theorem goes_openChannel {due : List Event}
    (ready : smooth → Ready b ⟨.openChannel due, phase⟩ s.channelIsOpen)
    (found : Found holds b smooth window out due) :
    Goes holds b smooth window out s
      (Performer.step (some limit) ⟨.openChannel due, phase⟩ s) := by
  have asks : Machine.move (Performer.state ⟨Dispatch.openChannel due, phase⟩) =
      .ask (.produce .openChannel) _ := rfl
  refine Goes.step asks ready clear found ?_ ?_
  · intro s' after
    obtain ⟨endpoint, same⟩ := Prod.mk.inj after
    refine .quiet same (found.proceed _) fun _ => openFor_of_open ?_ _
    rw [Scene.channelIsOpen, endpoint]
    rfl
  · intro storage broker s' same fails
    have abandoned := found.abandon fun sure => absurd trivial (fails sure)
    exact .quiet same.service abandoned fun _ => trivial

theorem goes_publish {d : Event} {later : List Event} {count : Nat}
    (ready : smooth → Ready b ⟨.publish d later count, phase⟩ s.channelIsOpen)
    (found : Found holds b smooth window out (d :: later)) :
    Goes holds b smooth window out s
      (Performer.step (some limit) ⟨.publish d later count, phase⟩ s) := by
  have asks : Machine.move (Performer.state ⟨Dispatch.publish d later count, phase⟩) =
      .ask (.produce (.publish (payload d))) _ := rfl
  have opened (sure : smooth) : s.channelIsOpen = true := (ready sure).channel
  refine Goes.step asks ready clear found ?_ ?_
  · intro s' after
    cases isOpen : s.channelIsOpen with
    | true =>
      rw [LocalService.answer_publish _ isOpen] at after ⊢
      obtain ⟨endpoint, published⟩ := Prod.mk.inj after
      have grown : arrivals s.stage s'.stage = [payload d] := by
        rw [arrivals, published]
        simp only [LocalBroker.publish, Queue.push, List.drop_left, List.map_singleton]
      constructor
      · rw [grown]
        exact found.publish.proceed count
      · refine fun _ => .inr (.inr (.start (openFor_of_open ?_ _)))
        rw [Scene.channelIsOpen, endpoint]
        exact isOpen
    | false =>
      rw [LocalService.answer_publish_closed _ isOpen] at after ⊢
      -- the broker refuses, which it does not do as long as all goes smoothly
      have rough (sure : smooth) : False := by
        rw [opened sure] at isOpen
        cases isOpen
      have skipped := (found.skip fun sure => (rough sure).elim).proceed count
      exact .quiet (Prod.mk.inj after).2 skipped fun sure => (rough sure).elim
  · intro storage broker s' same fails
    refine .quiet same.service ((found.skip fails).proceed count) fun sure =>
      openFor_of_open ?_ _
    rw [Scene.channelIsOpen, same.seat]
    exact opened sure

theorem goes_closeChannel {count : Nat}
    (ready : smooth → Ready b ⟨.closeChannel count, phase⟩ s.channelIsOpen)
    (found : Found holds b smooth window out []) :
    Goes holds b smooth window out s
      (Performer.step (some limit) ⟨.closeChannel count, phase⟩ s) := by
  have asks : Machine.move (Performer.state ⟨Dispatch.closeChannel count, phase⟩) =
      .ask (.produce .closeChannel) _ := rfl
  refine Goes.step asks ready clear found ?_ ?_
  · intro s' after
    exact .quiet (Prod.mk.inj after).2 found fun _ => trivial
  · intro storage broker s' same fails
    exact .quiet same.service found fun _ => trivial

theorem goes {p : Performer Dispatch} (ready : smooth → Ready b p s.channelIsOpen)
    (account : Account holds b smooth window out p.state) (now : holds s.stage) :
    Goes holds b smooth window out s (p.step (some limit) s) := by
  obtain ⟨state, phase⟩ := p
  cases state with
  | query asked =>
    obtain ⟨rfl, rfl⟩ := account
    exact goes_query clear ready now
  | openChannel due => exact goes_openChannel clear ready account
  | publish d later count => exact goes_publish clear ready account
  | closeChannel count => exact goes_closeChannel clear ready account
  | finished =>
    constructor
    · change Found holds b smooth window (out ++ arrivals s.stage s.stage) []
      rw [arrivals_same rfl, List.append_nil]
      exact account
    · intro _
      exact .inr (.inl ⟨rfl, rfl⟩)

omit clear in
/-- A cycle does not end before it is done. -/
theorem Goes.finished {q : Performer Dispatch × Scene} (h : Goes holds b smooth window out s q)
    (sure : smooth) (halted : q.1.phase = .halted) : q.1.state = .finished := by
  rcases h.ready sure with crashed | ⟨-, finished⟩ | ready
  · rw [halted] at crashed
    cases crashed
  · exact finished
  · have active := ready.active
    rw [Performer.Active, halted] at active
    rcases active with acting | ⟨due, cut, delayed⟩
    · cases acting
    · cases delayed

omit clear in
theorem Goes.goesOn {q : Performer Dispatch × Scene} (h : Goes holds b smooth window out s q)
    (uncrashed : q.1.phase ≠ .crashed) (unhalted : q.1.phase ≠ .halted) (sure : smooth) :
    Ready b q.1 q.2.channelIsOpen := by
  rcases h.ready sure with crashed | ⟨halted, -⟩ | ready
  · exact absurd crashed uncrashed
  · exact absurd halted unhalted
  · exact ready

end Calls
end Step

/-! ## Whole runs -/

section Runs

variable (holds : Stage → Prop) (b : Bytes) (smooth : Prop)

/-- What a cycle has published, once it is over or as far as it got. -/
def Past (r : Round) (out : List Bytes) : Prop :=
  ∃ s, holds s ∧ out.Sublist ((remindersIn s.service.events r.window).map payload) ∧
    (smooth → r.stop ≠ none →
      out.count b = ((remindersIn s.service.events r.window).map payload).count b)

def Course.channelIsOpen (x : Course) : Bool := x.scheduler.seat.endpoint.producer.isOpen

/-- How a dispatcher stands to the cycle that goes on and to what that has published. -/
def InHand (isOpen : Bool) (rounds : List Round) (published : List (List Bytes)) :
    Worker Dispatch → Prop
  | .cycling _ p => ∀ r ∈ rounds.head?, ∀ out ∈ published.head?,
      Account holds b smooth r.window out p.state ∧ (smooth → Ready b p isOpen)
  | .fresh | .waiting _ | .ended | .failed => True

/-- How a run stands to its diary. The channel is that of the cycle that goes on, as the scheduler
itself does nothing before the dispatcher is over. -/
structure Kept (x : Course) (published : List (List Bytes)) : Prop where
  past : List.Forall₂ (Past holds b smooth) x.rounds published
  going : InHand holds b smooth x.channelIsOpen x.rounds published x.scheduler.dispatcher
  watched : x.scheduler.supervision = .fresh ∨ x.scheduler.supervision = .watching ∨
    x.scheduler.dispatcher.isOver = true

end Runs

section Runs

variable {pace : Pace} {holds : Stage → Prop} {b : Bytes} {smooth : Prop} {r : Round}
  {out : List Bytes} {x : Course} {published : List (List Bytes)}

theorem Found.past {later : List Event} (h : Found holds b smooth r.window out later)
    (whole : smooth → r.stop ≠ none → later = []) : Past holds b smooth r out := by
  obtain ⟨s, tried, now, split, within, often⟩ := h
  refine ⟨s, now, ?_, fun sure stopped => ?_⟩
  · rw [split, List.map_append]
    exact within.trans (List.sublist_append_left _ _)
  · rw [split, whole sure stopped, List.append_nil]
    exact often sure

theorem Account.past {d : Dispatch} (h : Account holds b smooth r.window out d) {s : Stage}
    (now : holds s) (whole : smooth → r.stop ≠ none → d = .finished) : Past holds b smooth r out := by
  cases d with
  | query asked =>
    obtain ⟨-, rfl⟩ := h
    exact ⟨s, now, List.nil_sublist _, fun sure stopped => by cases whole sure stopped⟩
  | openChannel due => exact Found.past h fun sure stopped => by cases whole sure stopped
  | publish d later count => exact Found.past h fun sure stopped => by cases whole sure stopped
  | closeChannel count => exact Found.past h fun _ _ => rfl
  | finished => exact Found.past h fun _ _ => rfl

namespace Kept

theorem start (seat : Seat) (stage : Stage) : Kept holds b smooth (.start seat stage) [] where
  past := .nil
  going := trivial
  watched := .inl rfl

theorem frame (h : Kept holds b smooth x published) {y : Course}
    (dispatcher : y.scheduler.dispatcher = x.scheduler.dispatcher) (rounds : y.rounds = x.rounds)
    (channel : y.scheduler.dispatcher.isOver = true ∨ y.channelIsOpen = x.channelIsOpen)
    (watched : y.scheduler.supervision = .fresh ∨ y.scheduler.supervision = .watching ∨
      y.scheduler.dispatcher.isOver = true) : Kept holds b smooth y published where
  past := rounds ▸ h.past
  going := by
    rcases channel with ended | same
    · cases now : y.scheduler.dispatcher with
      | cycling t p =>
        rw [now] at ended
        cases ended
      | fresh | waiting | ended | failed => trivial
    · rw [rounds, same, dispatcher]
      exact h.going
  watched := watched

section Dispatcher

variable {supervision : Supervision} {cleaner : Worker Cleanup} {seat : Seat} {stage : Stage}
  {t : Ticker}

/-- A cycle begins. -/
theorem begin {rounds : List Round} (now : holds stage)
    (h : Kept holds b smooth ⟨⟨supervision, .waiting t, cleaner, seat⟩, stage, rounds⟩ published)
    (begins : (Worker.waiting t : Worker Dispatch).step pace ⟨seat, stage⟩ =
      (.cycling (t.heard stage.time) (.start (Cycle.start stage.clock pace.interval)),
        ⟨seat, stage⟩)) :
    let y := Course.dispatch pace ⟨⟨supervision, .waiting t, cleaner, seat⟩, stage, rounds⟩
    Kept holds b smooth y
      (issue (arrivals stage y.stage) (.waiting t) y.scheduler.dispatcher published) := by
  simp only [Course.dispatch, Scheduler.stepDispatcher, Scheduler.scene, begins]
  constructor
  · exact .cons ⟨stage, now, List.nil_sublist _, fun _ stopped => absurd rfl stopped⟩ h.past
  · intro r hr out hout
    cases hr
    cases hout
    exact ⟨⟨rfl, rfl⟩, fun _ => .start trivial⟩
  · exact h.watched

/-- A cycle goes on, ends or breaks off. -/
theorem proceed {p : Performer Dispatch} {earlier : List Round} (now : holds stage)
    (clear : smooth → Clear pace.operationTimeout b stage.faults)
    (h : Kept holds b smooth ⟨⟨supervision, .cycling t p, cleaner, seat⟩, stage, r :: earlier⟩
      (out :: published)) (unended : r.stop = none) :
    let y := Course.dispatch pace
      ⟨⟨supervision, .cycling t p, cleaner, seat⟩, stage, r :: earlier⟩
    Kept holds b smooth y (issue (arrivals stage y.stage) (.cycling t p) y.scheduler.dispatcher
      (out :: published)) := by
  obtain ⟨past, going, watched⟩ := h
  obtain ⟨-, older⟩ := List.forall₂_cons.mp past
  obtain ⟨account, ready⟩ := going r rfl out rfl
  have step := goes (s := ⟨seat, stage⟩) clear ready account now
  simp only [Course.dispatch, Scheduler.stepDispatcher, Scheduler.scene, Worker.step]
  generalize p.step (some pace.operationTimeout) ⟨seat, stage⟩ = q at step
  obtain ⟨p', after⟩ := q
  -- whatever the step makes of the round, its window and what was published stay the same
  have past_of (q : Round) (window : q.window = r.window)
      (whole : smooth → q.stop ≠ none → p'.state = .finished) :
      Past holds b smooth q (out ++ arrivals stage after.stage) :=
    Account.past (window ▸ step.account) now whole
  cases phase : p'.phase with
  | halted =>
    have ended := past_of { r with stop := some stage.time } rfl fun sure _ =>
      step.finished sure phase
    exact ⟨.cons ended older, trivial, watched⟩
  | crashed =>
    have broken_off := past_of (r.call p) rfl fun _ stopped => absurd unended stopped
    exact ⟨.cons broken_off older, trivial, .inr (.inr rfl)⟩
  | acting | delayed | asleep | stuck =>
    have so_far := past_of (r.call p) rfl fun _ stopped => absurd unended stopped
    refine ⟨.cons so_far older, ?_, watched⟩
    intro r' hr out' hout
    cases hr
    cases hout
    exact ⟨step.account, step.goesOn (by rw [phase]; exact Phase.noConfusion)
      (by rw [phase]; exact Phase.noConfusion)⟩

end Dispatcher

theorem dispatch (h : Kept holds b smooth x published) (timed : Timed pace x)
    (now : holds x.stage) (clear : smooth → Clear pace.operationTimeout b x.stage.faults) :
    Kept holds b smooth (x.dispatch pace)
      (issue (arrivals x.stage (x.dispatch pace).stage) x.scheduler.dispatcher
        (x.dispatch pace).scheduler.dispatcher published) := by
  obtain ⟨⟨supervision, worker, cleaner, seat⟩, stage, rounds⟩ := x
  cases worker with
  | fresh =>
    simp only [Course.dispatch, Scheduler.stepDispatcher, Worker.step]
    split
    · exact ⟨h.past, trivial, .inr (.inr rfl)⟩
    · exact ⟨h.past, trivial, h.watched⟩
  | waiting t =>
    rcases Worker.step_waiting (σ := Dispatch) pace t ⟨seat, stage⟩ with
      ends | fails | ⟨-, -, begins⟩
    · simp only [Course.dispatch, Scheduler.stepDispatcher, Scheduler.scene, ends]
      exact ⟨h.past, trivial, .inr (.inr rfl)⟩
    · simp only [Course.dispatch, Scheduler.stepDispatcher, Scheduler.scene, fails]
      exact ⟨h.past, trivial, .inr (.inr rfl)⟩
    · exact begin now h begins
  | cycling t p =>
    have paired := h.past
    cases paired with
    | nil => exact timed.standing.elim
    | cons first older =>
      obtain ⟨-, unended, -⟩ := timed.standing
      exact proceed now clear h unended
  | ended => exact ⟨h.past, trivial, h.watched⟩
  | failed => exact ⟨h.past, trivial, h.watched⟩

/-- The scheduler itself leaves the channel alone until the dispatcher is over. -/
theorem supervise (h : Kept holds b smooth x published) {t : Nat}
    (due : x.scheduler.due x.stage = some t) : Kept holds b smooth (x.supervise pace) published := by
  have dispatcher : (x.supervise pace).scheduler.dispatcher = x.scheduler.dispatcher :=
    Timed.dispatcher_step _ _
  have once_over (ended : x.scheduler.dispatcher.isOver = true) :
      Kept holds b smooth (x.supervise pace) published :=
    h.frame dispatcher rfl (.inl (dispatcher ▸ ended)) (.inr (.inr (dispatcher ▸ ended)))
  rcases h.watched with fresh | watching | finished
  · have started : x.scheduler.step pace x.stage = ({ x.scheduler with supervision := .watching },
        x.stage.log [.schedulerStarted pace.interval]) := by
      simp only [Scheduler.step, fresh]
    apply h.frame dispatcher rfl
    · rw [Course.channelIsOpen, Course.supervise, started]
      exact .inr rfl
    · rw [Course.supervise, started]
      exact .inr (.inl rfl)
  · apply once_over
    simp only [Scheduler.due, watching, Option.ite_none_right_eq_some, Bool.and_eq_true] at due
    exact due.1.1
  · exact once_over finished

/-- Every run stands so to its diary. -/
theorem of_diary {origin : Stage} (diary : Diary pace holds origin x published)
    (clear : smooth → ∀ s, holds s → Clear pace.operationTimeout b s.faults) :
    Kept holds b smooth x published := by
  induction diary with
  | start seat first => exact start seat _
  | dispatcher before due past now ih =>
    have present := before.run.now
    exact ih.dispatch (.run before.run) present fun sure => clear sure _ present
  | @cleaner x published t before due past now ih =>
    have channel : (x.cleanup pace).channelIsOpen = x.channelIsOpen := by
      simp only [Course.channelIsOpen, Course.cleanup, Scheduler.stepCleaner]
      rw [Worker.cleaner_endpoint]
      rfl
    exact ih.frame rfl rfl (.inr channel) ih.watched
  | supervisor before due past now ih => exact ih.supervise due
  | others stage before clock later punctual now ih => exact ih.frame rfl rfl (.inr rfl) ih.watched

theorem nth (h : Kept holds b smooth x published) {k : Nat}
    (nth : published.reverse[k]? = some out) :
    ∃ r, x.rounds.reverse[k]? = some r ∧ Past holds b smooth r out := by
  have pairs := List.forall₂_reverse_iff.mpr h.past
  obtain ⟨bound, rfl⟩ := List.getElem?_eq_some_iff.mp nth
  have bound' : k < x.rounds.reverse.length := by
    rw [pairs.length_eq]
    exact bound
  exact ⟨_, List.getElem?_eq_getElem bound', pairs.get bound' bound⟩

end Kept
end Runs

end Agenda.Rehearsal
