import Agenda.Proofs.Pipeline.Genuine
import Agenda.Proofs.Rest.Answers

/-! Stored events have valid dates and their own id, and so has every event that is ever shown.
The storage checks neither: clients check before they file, and nobody else files anything. -/
namespace Agenda

/-- A query has been answered with the event. -/
inductive Answered.Shows (e : Event) : Answered → Prop
  | byStart (span : TimeSpan) (events : List Event) (member : e ∈ events) :
    Shows e ⟨.findByStartDate span, .ok events⟩
  | byReminder (span : TimeSpan) (events : List Event) (member : e ∈ events) :
    Shows e ⟨.findByRemindIn span, .ok events⟩

/-- The event is in the answer to a client or in the batch of a dispatch cycle. -/
inductive Actor.Shows (e : Event) : Actor → Prop
  | answer {response : Rest.Response} (shown : response.Shows e) :
    Shows e (.client (.answered response))
  | found {due : List Event} (member : e ∈ due) : Shows e (.dispatch (.openChannel due))
  | publishing {d : Event} {later : List Event} (count : Nat) (member : e ∈ d :: later) :
    Shows e (.dispatch (.publish d later count))

/-- Every event is filed under its own id and has valid dates. -/
def EventStore.Valid (s : EventStore) : Prop :=
  ∀ id e, s.find? id = some e → e.id = id ∧ e.startDate ≤ e.endDate

def Actor.Valid (actor : Actor) : Prop := ∀ e, actor.Shows e → e.startDate ≤ e.endDate

def Answered.Valid (entry : Answered) : Prop := ∀ e, Shows e entry → e.startDate ≤ e.endDate

namespace LocalService

variable {s : LocalService} {c : Call} {fortune : Call.Fortune}

/-- Of a valid store only valid events are told. -/
theorem answer_valid (h : s.events.Valid) (x : Endpoint) :
    Answered.Valid ⟨c, (s.answer x c).1⟩ := by
  have queried {asked : Event → Bool} {key : Event → Timestamp} {events : List Event}
      (answered : Query.answer (Query.select asked key s.events.items) = .ok events) :
      ∀ e ∈ events, e.startDate ≤ e.endDate := by
    intro e member
    rw [(Query.answer_eq_ok.mp answered).1, Query.mem_select,
      Collection.mem_items_iff fun id d stored => (h id d stored).1] at member
    exact (h _ e member.1).2
  intro e shown
  generalize entry : (⟨c, (s.answer x c).1⟩ : Answered) = answered at shown
  cases shown with
  | byStart span events member =>
    obtain rfl : c = .findByStartDate span := congrArg Sigma.fst entry
    exact queried (eq_of_heq (Sigma.mk.inj entry).2) e member
  | byReminder span events member =>
    obtain rfl : c = .findByRemindIn span := congrArg Sigma.fst entry
    exact queried (eq_of_heq (Sigma.mk.inj entry).2) e member

theorem attempt_valid (h : s.events.Valid) (x : Endpoint) :
    Answered.Valid ⟨c, (attempt fortune s x c).1⟩ := by
  rcases attempt_told s x fortune c with told | ⟨storage, broker, told⟩
  · rw [told]
    exact answer_valid h x
  · rw [told]
    intro e shown
    generalize entry : (⟨c, c.failed storage broker⟩ : Answered) = answered at shown
    cases shown with
    | byStart span events member =>
      obtain rfl : c = .findByStartDate span := congrArg Sigma.fst entry
      cases eq_of_heq (Sigma.mk.inj entry).2
    | byReminder span events member =>
      obtain rfl : c = .findByRemindIn span := congrArg Sigma.fst entry
      cases eq_of_heq (Sigma.mk.inj entry).2

/-- A store stays valid if nobody files an event without looking at its dates. -/
theorem attempt_keeps (h : s.events.Valid) (x : Endpoint)
    (checked : ∀ e, c = .insert e ∨ c = .save e → e.startDate ≤ e.endDate) :
    (attempt fortune s x c).2.2.events.Valid := by
  intro id e stored
  rcases attempt_stores s x stored with old | ⟨own, filed⟩
  · exact h id e old
  · exact ⟨own, checked e filed⟩

end LocalService

namespace Actor

variable {actor : Actor} {c : Call} {next : c.Answer → Actor × List Notice}

/-- Only clients file events, and they look at the dates before. -/
theorem files_checked (move : Machine.move actor = .ask c next) {e : Event}
    (filed : c = .insert e ∨ c = .save e) : e.startDate ≤ e.endDate := by
  cases actor with
  | client x =>
    cases x with
    | answered => cases move
    | calling p =>
      cases p with
      | creating d valid | updating d valid =>
        cases move
        rcases filed with filed | filed <;> cases filed
        exact valid
      | removing | listing => cases move; rcases filed with filed | filed <;> cases filed
  | dispatch x => cases x <;> cases move <;> rcases filed with filed | filed <;> cases filed
  | cleanup x => cases x <;> cases move <;> rcases filed with filed | filed <;> cases filed
  | sender x => cases x <;> cases move <;> rcases filed with filed | filed <;> cases filed

theorem valid_of_silent (silent : ∀ e, ¬ actor.Shows e) : actor.Valid :=
  fun e shown => absurd shown (silent e)

theorem valid_start (task : System.Task) : task.actor.Valid := by
  apply valid_of_silent
  intro e shown
  cases task with
  | request r =>
    generalize begun : System.Task.actor (.request r) = actor at shown
    cases shown with
    | answer shown => exact Rest.Exchange.ofRequest_shows (Actor.client.inj begun) shown
    | found | publishing => cases begun
  | dispatch | cleanup | send => cases shown

theorem valid_proceed {found : List Event} (h : ∀ e ∈ found, e.startDate ≤ e.endDate)
    (count : Nat) : (Actor.dispatch (Dispatch.proceed count found)).Valid := by
  cases found with
  | nil => exact valid_of_silent fun e shown => by cases shown
  | cons d later =>
    rintro e (_ | _ | ⟨_, member⟩)
    exact h e member

/-- What an actor shows after a call, it has shown before or has just been told. -/
theorem Valid.told (h : actor.Valid) (move : Machine.move actor = .ask c next) {a : c.Answer}
    (valid : Answered.Valid ⟨c, a⟩) : (next a).1.Valid := by
  cases actor with
  | client x =>
    cases x with
    | answered => cases move
    | calling p =>
      cases move
      rintro e (shown | _ | _)
      apply Rest.Pending.settle_shows shown
      intro span events same d member
      exact valid d (same ▸ .byStart span events member)
  | dispatch x =>
    cases x with
    | query window =>
      cases move
      rcases a with error | due
      · cases error <;> exact valid_of_silent fun e shown => by cases shown
      · rintro e (_ | member | _)
        exact valid e (.byReminder window due member)
    | openChannel due =>
      cases move
      rcases a with error | done
      · exact valid_of_silent fun e shown => by cases shown
      · exact valid_proceed (fun e member => h e (.found member)) _
    | publish d later count =>
      cases move
      have rest := fun e member => h e (.publishing count (.tail d member))
      rcases a with error | done <;> exact valid_proceed rest _
    | closeChannel count =>
      cases move
      cases a <;> exact valid_of_silent fun e shown => by cases shown
    | finished => cases move
  | cleanup x => cases x <;> cases move <;> exact valid_of_silent fun e shown => by cases shown
  | sender x => cases x <;> cases move <;> exact valid_of_silent fun e shown => by cases shown

/-- Only senders listen, and they have no events to show. -/
theorem valid_hears {next : Signal → Actor × List Notice}
    (move : Machine.move actor = .listen next) (signal : Signal) : (next signal).1.Valid := by
  apply valid_of_silent
  intro e shown
  cases actor with
  | client x => cases x <;> cases move
  | dispatch x => cases x <;> cases move
  | cleanup x => cases x <;> cases move
  | sender x =>
    cases x <;> cases move
    cases shown

end Actor

namespace System

/-- What may happen in a system where calls fail or are too late, whoever makes them. -/
inductive Deed
  | start (task : Task) (endpoint : Nat)
  | call (actor : Nat) (fortune : Call.Fortune)
  | hear (actor : Nat) (cue : Cue)
  | leave (endpoint : Nat)

def perform (x : System) : Deed → System
  | .start task seat => x.step (.start task seat)
  | .call k fortune => x.ask k (LocalService.attempt fortune)
  | .hear k cue => x.hear k cue
  | .leave k => x.step (.leave k)

def performAll (x : System) (deeds : List Deed) : System := deeds.foldl perform x

structure Valid (x : System) : Prop where
  stored : x.service.events.Valid
  told : ∀ entry ∈ x.log, entry.Valid
  shown : ∀ p ∈ x.actors, p.1.Valid

variable {x : System}

theorem Valid.ask (h : x.Valid) (k : Nat) (fortune : Call.Fortune) :
    (x.ask k (LocalService.attempt fortune)).Valid := by
  unfold System.ask
  cases turn : x.actors[k]? with
  | none => exact h
  | some p =>
    obtain ⟨actor, seat⟩ := p
    have valid := h.shown _ (List.mem_of_getElem? turn)
    cases move : Machine.move actor with
    | halt | listen => simp only [move]; exact h
    | ask c next =>
      have told : Answered.Valid ⟨c, (x.service.attempt fortune (x.endpoints seat) c).1⟩ :=
        LocalService.attempt_valid h.stored _
      simp only [move]
      refine ⟨?_, ?_, ?_⟩
      · exact LocalService.attempt_keeps h.stored _ fun e => actor.files_checked move
      · intro entry member
        rcases List.mem_cons.mp member with rfl | old
        · exact told
        · exact h.told entry old
      · intro p member
        rcases List.mem_or_eq_of_mem_set member with old | rfl
        · exact h.shown p old
        · exact valid.told move told

theorem heard_events (s : LocalService) (endpoint : Endpoint) (cue : Cue) :
    (heard s endpoint cue).2.events = s.events := by
  cases cue with
  | ended | cancelled => rfl
  | poll =>
    obtain ⟨broker, after, -⟩ := s.poll_broker endpoint
    change (s.poll endpoint).2.2.events = s.events
    rw [after]

theorem Valid.hear (h : x.Valid) (k : Nat) (cue : Cue) : (x.hear k cue).Valid := by
  unfold System.hear
  cases turn : x.actors[k]? with
  | none => exact h
  | some p =>
    obtain ⟨actor, seat⟩ := p
    cases move : Machine.move actor with
    | halt | ask => simp only [move]; exact h
    | listen next =>
      have same := heard_events x.service (x.endpoints seat) cue
      simp only [move]
      generalize heard x.service (x.endpoints seat) cue = outcome at same ⊢
      obtain ⟨_ | signal, after⟩ := outcome
      · exact ⟨same.symm ▸ h.stored, h.told, h.shown⟩
      · refine ⟨same.symm ▸ h.stored, h.told, ?_⟩
        intro p member
        rcases List.mem_or_eq_of_mem_set member with old | rfl
        · exact h.shown p old
        · exact Actor.valid_hears move signal

theorem Valid.perform (h : x.Valid) (deed : Deed) : (x.perform deed).Valid := by
  cases deed with
  | start task seat =>
    refine ⟨h.stored, h.told, ?_⟩
    intro p member
    rcases List.mem_append.mp member with old | new
    · exact h.shown p old
    · rw [List.mem_singleton.mp new]
      exact Actor.valid_start task
  | call k fortune => exact h.ask k fortune
  | hear k cue => exact h.hear k cue
  | leave k =>
    obtain ⟨broker, -, after⟩ := x.service.dropStream_broker (x.endpoints k)
    refine ⟨?_, h.told, h.shown⟩
    simp only [System.perform, step, after]
    exact h.stored

theorem Valid.performAll (h : x.Valid) (deeds : List Deed) : (x.performAll deeds).Valid := by
  induction deeds generalizing x with
  | nil => exact h
  | cons deed later ih => exact ih (h.perform deed)

theorem valid_new (maxDeliver : Int) : (new maxDeliver).Valid := by
  refine ⟨?_, ?_, ?_⟩
  · intro id e stored
    cases stored
  · intro entry none
    cases none
  · intro p none
    cases none

/-- **Stored events have valid dates and their own id.** However clients, cycles and senders take
turns, and whichever of their calls fail or come too late, every stored event is filed under its own
id and does not end before it starts; and so it is with every event that a query has told, that a
client reads in an answer or that a dispatch cycle has in its batch. -/
theorem valid_dates (maxDeliver : Int) (deeds : List Deed) :
    let x := (new maxDeliver).performAll deeds
    (∀ id e, x.service.events.find? id = some e → e.id = id ∧ e.startDate ≤ e.endDate) ∧
    (∀ entry ∈ x.log, ∀ e, Answered.Shows e entry → e.startDate ≤ e.endDate) ∧
    ∀ actor ∈ x.actors.map Prod.fst, ∀ e, actor.Shows e → e.startDate ≤ e.endDate := by
  intro x
  have valid : x.Valid := (valid_new maxDeliver).performAll deeds
  refine ⟨valid.stored, valid.told, ?_⟩
  intro actor member
  obtain ⟨p, taken, rfl⟩ := List.mem_map.mp member
  exact valid.shown p taken

/-! A lecture that is stored although the client is told that it took too long, and then found by a
dispatch cycle. -/

def lateFiling : List Deed :=
  [.start (.request announcement) 0, .call 0 (.late (.backend "too late") (.backend "too late")),
    .start (.dispatch .zero (.ofSeconds 60)) 1]

theorem late_lecture_valid :
    let x := (new 5).performAll (lateFiling ++ [.call 1 .well])
    x.service.events.find? "e1" = some lecture ∧
      .dispatch (.openChannel [lecture]) ∈ x.actors.map Prod.fst ∧
      lecture.id = "e1" ∧ lecture.startDate ≤ lecture.endDate := by
  have task : (Task.request announcement).actor =
      .client (.calling (.creating lecture (by decide))) :=
    congrArg Actor.client ofRequest_announcement
  obtain ⟨endpoints, client, log, filed⟩ : ∃ endpoints client log,
      (new 5).performAll lateFiling =
        ⟨((LocalService.new 5).answer .new (.insert lecture)).2.2, endpoints,
          [client, (.dispatch (.start .zero (.ofSeconds 60)), 1)], log⟩ := by
    simp only [lateFiling, performAll, List.foldl_cons, List.foldl_nil, perform, step, task]
    exact ⟨_, _, _, rfl⟩
  obtain ⟨own, -, valid⟩ := valid_dates 5 (lateFiling ++ [.call 1 .well])
  have found : (new 5).performAll (lateFiling ++ [.call 1 .well]) =
      ((new 5).performAll lateFiling).performAll [.call 1 .well] := List.foldl_append
  rw [filed] at found
  generalize (new 5).performAll (lateFiling ++ [.call 1 .well]) = x at found own valid ⊢
  have stored : x.service.events.find? "e1" = some lecture := by
    rw [found]
    cbv
  have batch : x.actors[1]? = some (.dispatch (.openChannel [lecture]), 1) := by
    rw [found]
    cbv
  have shown := List.mem_map_of_mem (f := Prod.fst) (List.mem_of_getElem? batch)
  exact ⟨stored, shown, (own "e1" lecture stored).1,
    valid _ shown lecture (.found (List.mem_singleton_self _))⟩

end System
end Agenda
