import Mathlib
import Agenda.Proofs.Pipeline.System
import Agenda.Proofs.Storage.Query
import Agenda.Proofs.Wire

/-! Where notifications come from: whatever is queued or recorded stands for an event that a client
has filed and that a dispatch cycle has found in its window. -/
namespace Agenda

/-- A client has been told that the event is stored. -/
def Accepted (log : List Answered) (e : Event) : Prop :=
  ⟨.insert e, .ok ()⟩ ∈ log ∨ ⟨.save e, .ok ()⟩ ∈ log

/-- A dispatch cycle has found the event, which a client had filed before. -/
def Found (log : List Answered) (e : Event) : Prop :=
  ∃ now interval due later earlier,
    log = later ++ ⟨.findByRemindIn (Dispatch.window now interval), .ok due⟩ :: earlier ∧
    e ∈ due ∧ (Dispatch.window now interval).contains e.remindIn = true ∧
    e.startDate ≤ e.endDate ∧ Accepted earlier e

def Genuine (log : List Answered) (n : Notification) : Prop :=
  ∃ e, Found log e ∧ n = .ofEvent e

section Log

variable {log : List Answered} {e : Event} {n : Notification}

theorem Accepted.later (h : Accepted log e) (entry : Answered) : Accepted (entry :: log) e :=
  h.imp (.tail _) (.tail _)

theorem Found.later (h : Found log e) (entry : Answered) : Found (entry :: log) e := by
  obtain ⟨now, interval, due, later, earlier, rfl, rest⟩ := h
  exact ⟨now, interval, due, entry :: later, earlier, rfl, rest⟩

theorem Genuine.later (h : Genuine log n) (entry : Answered) : Genuine (entry :: log) n := by
  obtain ⟨e, found, rfl⟩ := h
  exact ⟨e, found.later entry, rfl⟩

end Log

/-! ## What the actors ask for -/

/-- The call of a part of the service that does as it should. -/
def Call.Sound (log : List Answered) : Call → Prop
  | .insert e | .save e => e.startDate ≤ e.endDate
  | .findByRemindIn window => ∃ now interval, window = Dispatch.window now interval
  | .record n => Genuine log n
  | .produce (.publish payload) => ∃ n, Genuine log n ∧ payload = n.toBytes
  | _ => True

/-- What an actor carries with it from one call to the next. -/
def Actor.Sound (log : List Answered) : Actor → Prop
  | .dispatch (.query window) => ∃ now interval, window = Dispatch.window now interval
  | .dispatch (.openChannel due) => ∀ e ∈ due, Found log e
  | .dispatch (.publish e later _) => ∀ d ∈ e :: later, Found log d
  | .sender (.record n) => Genuine log n
  | _ => True

/-- The events that a dispatch cycle is told of are found. -/
def Honest (log : List Answered) (entry : Answered) : Prop :=
  ∀ window due, entry = ⟨.findByRemindIn window, .ok due⟩ → ∀ e ∈ due, Found (entry :: log) e

namespace Actor

variable {log : List Answered} {actor : Actor}

theorem Sound.later (h : actor.Sound log) (entry : Answered) : actor.Sound (entry :: log) := by
  cases actor with
  | client | cleanup => trivial
  | dispatch x =>
    cases x with
    | query => exact h
    | openChannel due => exact fun e he => (h e he).later entry
    | publish e later count => exact fun d hd => (h d hd).later entry
    | closeChannel | finished => trivial
  | sender x =>
    cases x with
    | record n => exact Genuine.later h entry
    | openChannel | beginConsume | receive | listening | closeChannel | closeConnection
    | finished => trivial

theorem sound_proceed {found : List Event} (h : ∀ e ∈ found, Found log e) (count : Nat) :
    (Actor.dispatch (Dispatch.proceed count found)).Sound log := by
  cases found with
  | nil => trivial
  | cons e later => exact h

theorem sound_start (task : System.Task) : task.actor.Sound log := by
  cases task with
  | dispatch now interval => exact ⟨now, interval, rfl⟩
  | request | cleanup | send => trivial

variable {c : Call} {next : c.Answer → Actor × List Notice}

theorem Sound.asks (h : actor.Sound log) (move : Machine.move actor = .ask c next) :
    c.Sound log := by
  cases actor with
  | client x =>
    cases x with
    | answered => cases move
    | calling p =>
      cases p with
      | creating e valid | updating e valid => cases move; exact valid
      | removing | listing => cases move; trivial
  | cleanup x => cases x <;> cases move <;> trivial
  | dispatch x =>
    cases x with
    | query => cases move; exact h
    | publish e later count => cases move; exact ⟨_, ⟨e, h e (.head _), rfl⟩, rfl⟩
    | openChannel | closeChannel => cases move; trivial
    | finished => cases move
  | sender x =>
    cases x with
    | record n => cases move; exact h
    | openChannel | beginConsume | receive | closeChannel | closeConnection => cases move; trivial
    | listening | finished => cases move

theorem Sound.told (h : actor.Sound log) (move : Machine.move actor = .ask c next) {a : c.Answer}
    (honest : Honest log ⟨c, a⟩) : (next a).1.Sound (⟨c, a⟩ :: log) := by
  cases actor with
  | client x =>
    cases x with
    | answered => cases move
    | calling p => cases move; trivial
  | cleanup x =>
    cases x <;> cases move <;> trivial
  | dispatch x =>
    cases x with
    | query window =>
      cases move
      rcases a with error | due
      · cases error <;> trivial
      · exact honest window due rfl
    | openChannel due =>
      cases move
      rcases a with error | done
      · trivial
      · exact sound_proceed (fun e he => (h e he).later _) _
    | publish e later count =>
      cases move
      have rest := fun d hd => (h d (.tail e hd)).later ⟨.produce _, a⟩
      rcases a with error | done <;> exact sound_proceed rest _
    | closeChannel count => cases move; cases a <;> trivial
    | finished => cases move
  | sender x =>
    cases x with
    | record n =>
      cases move
      rcases a with error | done
      · cases error <;> trivial
      · trivial
    | openChannel | beginConsume | receive => cases move; cases a <;> trivial
    | closeChannel | closeConnection => cases move; trivial
    | listening | finished => cases move

theorem sound_hears {next : Signal → Actor × List Notice} (move : Machine.move actor = .listen next)
    {signal : Signal} (delivered : ∀ n, signal = .delivery (.ok n) → Genuine log n) :
    (next signal).1.Sound log := by
  cases actor with
  | client x => cases x <;> cases move
  | cleanup x => cases x <;> cases move
  | dispatch x => cases x <;> cases move
  | sender x =>
    cases x with
    | listening =>
      cases move
      cases signal with
      | delivery item =>
        cases item with
        | ok n => exact delivered n rfl
        | error e => trivial
      | ended | cancelled => trivial
    | record | openChannel | beginConsume | receive | closeChannel | closeConnection
    | finished => cases move

end Actor

/-! ## What the service holds -/

/-- Everything in the service has been accepted from a client or found by a cycle. -/
structure LocalService.Sound (log : List Answered) (s : LocalService) : Prop where
  keyed : s.events.Keyed Event.id
  filed : ∀ id e, s.events.find? id = some e → e.startDate ≤ e.endDate ∧ Accepted log e
  queued : ∀ d ∈ s.broker.queue.messages, ∃ n, Genuine log n ∧ d.payload = n.toBytes
  once : s.notifications.Keyed Notification.eventId
  recorded : ∀ id n, s.notifications.find? id = some n → Genuine log n

namespace LocalService

variable {log : List Answered} {s : LocalService}

theorem Sound.later (h : s.Sound log) (entry : Answered) : s.Sound (entry :: log) where
  keyed := h.keyed
  filed := fun id e stored => (h.filed id e stored).imp_right (·.later entry)
  queued := by
    intro d hd
    obtain ⟨n, genuine, payload⟩ := h.queued d hd
    exact ⟨n, genuine.later entry, payload⟩
  once := h.once
  recorded := fun id n stored => (h.recorded id n stored).later entry

theorem Sound.withBroker (h : s.Sound log) {broker : LocalBroker}
    (queued : ∀ d ∈ broker.queue.messages, ∃ n, Genuine log n ∧ d.payload = n.toBytes) :
    ({ s with broker } : LocalService).Sound log :=
  ⟨h.keyed, h.filed, queued, h.once, h.recorded⟩

theorem Sound.withEvents (h : s.Sound log) {events : EventStore} (keyed : events.Keyed Event.id)
    (filed : ∀ id e, events.find? id = some e → e.startDate ≤ e.endDate ∧ Accepted log e) :
    ({ s with events } : LocalService).Sound log :=
  ⟨keyed, filed, h.queued, h.once, h.recorded⟩

/-- An event is stored, and the client is told so. -/
theorem Sound.files (h : s.Sound log) {events : EventStore} {e : Event} {entry : Answered}
    (after : ∀ k, events.find? k = if k = e.id then some e else s.events.find? k)
    (valid : e.startDate ≤ e.endDate) (accepted : Accepted (entry :: log) e) :
    ({ s with events } : LocalService).Sound (entry :: log) := by
  apply (h.later entry).withEvents
  · intro id d stored
    rw [after] at stored
    split at stored
    · cases stored
      exact Eq.symm ‹_›
    · exact h.keyed id d stored
  · intro id d stored
    rw [after] at stored
    split at stored
    · cases stored
      exact ⟨valid, accepted⟩
    · exact (h.later entry).filed id d stored

theorem Sound.deletes (h : s.Sound log) (x : Endpoint) (id : String) :
    (s.answer x (.delete id)).2.2.Sound log := by
  cases gone : s.events.delete id with
  | error e =>
    simp only [answer, storing, gone]
    exact h
  | ok events =>
    simp only [answer, storing, gone]
    apply h.withEvents (h.keyed.delete gone)
    intro k e stored
    rw [Collection.find?_delete gone] at stored
    split at stored
    · cases stored
    · exact h.filed k e stored

theorem Sound.records (h : s.Sound log) (x : Endpoint) {n : Notification} (genuine : Genuine log n) :
    (s.answer x (.record n)).2.2.Sound log := by
  cases stored : s.notifications.record n with
  | error e =>
    simp only [answer, stored]
    exact h
  | ok notifications =>
    simp only [answer, stored]
    refine ⟨h.keyed, h.filed, h.queued, h.once.insert stored, ?_⟩
    intro id m found
    rw [Collection.find?_insert stored] at found
    split at found
    · cases found
      exact genuine
    · exact h.recorded id m found

theorem Sound.produces (h : s.Sound log) (x : Endpoint) {call : ProducerCall}
    (sound : (Call.produce call).Sound log) : (s.produce x call).2.2.Sound log := by
  rcases s.produce_broker x call with same | ⟨payload, rfl, published⟩
  · rw [same]
    exact h
  · rw [published]
    apply h.withBroker
    intro d hd
    rcases List.mem_append.mp hd with old | new
    · exact h.queued d old
    · rw [List.mem_singleton.mp new]
      exact sound

/-- A call that files nothing needs no mention in the log. -/
theorem Sound.serves (h : s.Sound log) (x : Endpoint) {c : Call} (sound : c.Sound log)
    (other : c.isFiling = false) : (s.answer x c).2.2.Sound log := by
  cases c with
  | insert | save => cases other
  | delete id => exact h.deletes x id
  | findByStartDate | findByRemindIn => exact h
  | record n => exact h.records x sound
  | produce call => exact h.produces x sound
  | consume call =>
    obtain ⟨broker, queue, after⟩ := s.consume_broker x call
    simp only [answer, after]
    exact h.withBroker (queue ▸ h.queued)

theorem Sound.answers (h : s.Sound log) (x : Endpoint) {c : Call} (sound : c.Sound log) :
    (s.answer x c).2.2.Sound (⟨c, (s.answer x c).1⟩ :: log) := by
  cases c with
  | insert e =>
    cases stored : s.events.insert e with
    | error error =>
      simp only [answer, storing, stored]
      exact h.later _
    | ok events =>
      simp only [answer, storing, stored]
      exact h.files (Collection.find?_insert stored) sound (.inl (.head _))
  | save e =>
    cases stored : s.events.save e with
    | error error =>
      simp only [answer, storing, stored]
      exact h.later _
    | ok events =>
      simp only [answer, storing, stored]
      exact h.files (Collection.find?_save stored) sound (.inr (.head _))
  | delete | findByStartDate | findByRemindIn | record | produce | consume =>
    exact (h.serves x sound rfl).later _

/-- A query tells of stored events in its window. -/
theorem Sound.honest (h : s.Sound log) (x : Endpoint) {c : Call} (sound : c.Sound log) :
    Honest log ⟨c, (s.answer x c).1⟩ := by
  intro window due same e he
  have asked : c = .findByRemindIn window := congrArg Sigma.fst same
  subst asked
  obtain ⟨now, interval, rfl⟩ := sound
  have answered : s.events.findByRemindIn (Dispatch.window now interval) = .ok due :=
    eq_of_heq (Sigma.mk.inj same).2
  rw [(Query.answer_eq_ok.mp answered).1, Query.mem_select, Collection.mem_items_iff h.keyed] at he
  obtain ⟨stored, inside⟩ := he
  obtain ⟨valid, accepted⟩ := h.filed _ e stored
  refine ⟨now, interval, due, [], log, congrArg (· :: log) same, ?_, inside, valid, accepted⟩
  rw [(Query.answer_eq_ok.mp answered).1, Query.mem_select, Collection.mem_items_iff h.keyed]
  exact ⟨stored, inside⟩

theorem Sound.polls (h : s.Sound log) (x : Endpoint) :
    (s.poll x).2.2.Sound log ∧ ∀ n, (s.poll x).1 = some (.ok n) → Genuine log n := by
  obtain ⟨broker, after, ⟨nothing, same⟩ | ⟨t, taken, item, queue⟩⟩ := s.poll_broker x
  · rw [after, nothing]
    refine ⟨h.withBroker (same ▸ h.queued), ?_⟩
    intro n found
    cases found
  · rw [after, item]
    constructor
    · apply h.withBroker
      intro m member
      obtain ⟨d, queued, payload⟩ := Queue.mem_of_take taken (queue ▸ member)
      exact payload ▸ h.queued d queued
    · intro n found
      obtain ⟨d, rest, front, handed, -⟩ := Queue.take_cases taken
      obtain ⟨m, genuine, payload⟩ := h.queued d (front ▸ .head _)
      have read : Notification.ofBytes d.payload = .ok m := payload ▸ m.ofBytes_toBytes
      rw [handed, Delivery.item_readable read] at found
      cases found
      exact genuine

theorem Sound.drops (h : s.Sound log) (x : Endpoint) : (s.dropStream x).2.Sound log := by
  obtain ⟨broker, queue, after⟩ := s.dropStream_broker x
  rw [after]
  exact h.withBroker (queue ▸ h.queued)

end LocalService

/-! ## The whole system -/

namespace System

structure Sound (x : System) : Prop where
  service : x.service.Sound x.log
  actors : ∀ p ∈ x.actors, p.1.Sound x.log

variable {x : System}

/-- A call that is served in one of the ways in which calls are served. -/
theorem Sound.ask (h : x.Sound) (k : Nat)
    {serve : LocalService → Endpoint → (c : Call) → c.Answer × Endpoint × LocalService}
    (served : ∀ endpoint c, c.Sound x.log →
      (serve x.service endpoint c).2.2.Sound (⟨c, (serve x.service endpoint c).1⟩ :: x.log) ∧
        Honest x.log ⟨c, (serve x.service endpoint c).1⟩) :
    (x.ask k serve).Sound := by
  unfold System.ask
  cases turn : x.actors[k]? with
  | none => exact h
  | some p =>
    obtain ⟨actor, seat⟩ := p
    have sound := h.actors _ (List.mem_of_getElem? turn)
    cases move : Machine.move actor with
    | halt | listen => simp only [move]; exact h
    | ask c next =>
      obtain ⟨service, honest⟩ := served (x.endpoints seat) c (sound.asks move)
      simp only [move]
      refine ⟨service, ?_⟩
      intro p hp
      rcases List.mem_or_eq_of_mem_set hp with old | rfl
      · exact (h.actors p old).later _
      · exact sound.told move honest

theorem failing_sound {log : List Answered} {s : LocalService} (h : s.Sound log)
    (storage : StorageError) (broker : BrokerError) (late : Bool) (endpoint : Endpoint) {c : Call}
    (sound : c.Sound log) :
    (failing storage broker late s endpoint c).2.2.Sound
        (⟨c, (failing storage broker late s endpoint c).1⟩ :: log) ∧
      Honest log ⟨c, (failing storage broker late s endpoint c).1⟩ := by
  constructor
  · apply LocalService.Sound.later
    unfold failing
    split
    · rename_i carriedOut
      simp only [Bool.and_eq_true, Bool.not_eq_true'] at carriedOut
      exact h.serves endpoint sound carriedOut.2
    · exact h
  · intro window due same
    have asked : c = .findByRemindIn window := congrArg Sigma.fst same
    subst asked
    cases eq_of_heq (Sigma.mk.inj same).2

theorem heard_sound {log : List Answered} {s : LocalService} (h : s.Sound log)
    (endpoint : Endpoint) (cue : Cue) :
    (heard s endpoint cue).2.Sound log ∧
      ∀ n, (heard s endpoint cue).1 = some (.delivery (.ok n)) → Genuine log n := by
  cases cue with
  | ended | cancelled => exact ⟨h, fun n other => by cases other⟩
  | poll =>
    obtain ⟨service, delivered⟩ := h.polls endpoint
    refine ⟨service, ?_⟩
    intro n found
    obtain ⟨item, polled, same⟩ := Option.map_eq_some_iff.mp found
    cases same
    exact delivered n polled

theorem Sound.hear (h : x.Sound) (k : Nat) (cue : Cue) : (x.hear k cue).Sound := by
  unfold System.hear
  cases turn : x.actors[k]? with
  | none => exact h
  | some p =>
    obtain ⟨actor, seat⟩ := p
    cases move : Machine.move actor with
    | halt | ask => simp only [move]; exact h
    | listen next =>
      have sound := heard_sound h.service (x.endpoints seat) cue
      simp only [move]
      generalize heard x.service (x.endpoints seat) cue = outcome at sound ⊢
      obtain ⟨signal, after⟩ := outcome
      obtain ⟨service, delivered⟩ := sound
      cases signal with
      | none => exact ⟨service, h.actors⟩
      | some signal =>
        refine ⟨service, ?_⟩
        intro p hp
        rcases List.mem_or_eq_of_mem_set hp with old | rfl
        · exact h.actors p old
        · exact Actor.sound_hears move fun n same => delivered n (congrArg some same)

theorem Sound.step (h : x.Sound) (act : Act) : (x.step act).Sound := by
  cases act with
  | start task seat =>
    refine ⟨h.service, ?_⟩
    intro p hp
    rcases List.mem_append.mp hp with old | new
    · exact h.actors p old
    · rw [List.mem_singleton.mp new]
      exact Actor.sound_start task
  | call k =>
    exact h.ask k fun endpoint c sound =>
      ⟨h.service.answers endpoint sound, h.service.honest endpoint sound⟩
  | fail k storage broker late =>
    exact h.ask k fun endpoint c => failing_sound h.service storage broker late endpoint
  | hear k cue => exact h.hear k cue
  | leave k => exact ⟨h.service.drops _, h.actors⟩

theorem Sound.run (h : x.Sound) (acts : List Act) : (x.run acts).Sound := by
  induction acts generalizing x with
  | nil => exact h
  | cons act later ih => exact ih (h.step act)

theorem sound_new (maxDeliver : Int) : (new maxDeliver).Sound := by
  refine ⟨⟨?_, ?_, ?_, ?_, ?_⟩, ?_⟩
  · exact Collection.keyed_empty
  · intro id e stored
    cases stored
  · intro d queued
    cases queued
  · exact Collection.keyed_empty
  · intro id n stored
    cases stored
  · intro p none
    cases none

/-- **Every recorded notification is genuine.** However clients, cycles and senders take turns and
whichever of their calls fail, each message in the queue and each recorded notification stands for
an event that a client had filed, with valid dates, when a dispatch cycle found it in its window: it
has the id, the title, the start and the owner of that event. No two recorded notifications are of
one event. -/
theorem notifications_genuine (maxDeliver : Int) (acts : List Act) :
    let x := (new maxDeliver).run acts
    (∀ d ∈ x.service.broker.queue.messages, ∃ e, Found x.log e ∧
      d.payload = (Notification.ofEvent e).toBytes ∧
      Notification.ofBytes d.payload = .ok
        { eventId := e.id, title := e.title, date := e.startDate, userId := e.ownerId }) ∧
    (∀ n ∈ x.service.notifications.items, ∃ e, Found x.log e ∧ n = .ofEvent e ∧
      n.eventId = e.id ∧ n.title = e.title ∧ n.date = e.startDate ∧ n.userId = e.ownerId) ∧
    (x.service.notifications.items.map (·.eventId)).Nodup := by
  intro x
  have sound : x.Sound := (sound_new maxDeliver).run acts
  refine ⟨?_, ?_, Collection.ids_nodup sound.service.once⟩
  · intro d queued
    obtain ⟨n, ⟨e, found, rfl⟩, payload⟩ := sound.service.queued d queued
    refine ⟨e, found, payload, ?_⟩
    rw [payload]
    exact Notification.ofBytes_toBytes (.ofEvent e)
  · intro n recorded
    rw [Collection.mem_items_iff sound.service.once] at recorded
    obtain ⟨e, found, rfl⟩ := sound.service.recorded _ n recorded
    exact ⟨e, found, rfl, rfl, rfl, rfl, rfl⟩

/-! A lecture that is announced, found, published, received and recorded. -/

def lecture : Event := ⟨"e1", "Lecture", .zero, .zero, "", "ann", .zero⟩

def announcement : Rest.Request :=
  ⟨"POST", "/api/v1/events", some "application/json", Event.creationCodec.encode lecture⟩

theorem ofRequest_announcement :
    (Rest.Exchange.ofRequest announcement).1 = .calling (.creating lecture (by decide)) := by
  have routed : Rest.Route.ofRequest? announcement = some .create := by cbv
  have json : (announcement.contentType.map Rest.MediaType.isJson).getD false = true := by cbv
  have decoded : Event.creationCodec.decode announcement.body = .ok lecture :=
    Json.Codec.decode_encode Event.creationCodec_faithful lecture
  simp only [Rest.Exchange.ofRequest, Rest.Request.operation, routed, Rest.Request.read, json,
    decoded, if_true]
  rfl

/-- A client, a dispatch cycle and a sender, one after the other. -/
def lectureDay : List Act :=
  [.start (.request announcement) 0, .call 0,
    .start (.dispatch .zero (.ofSeconds 60)) 1, .call 1, .call 1, .call 1, .call 1,
    .start .send 2, .call 2, .call 2, .call 2, .hear 2 .poll, .call 2]

theorem lecture_recorded :
    ((new 5).run lectureDay).service.notifications.items = [⟨"e1", "Lecture", .zero, "ann"⟩] ∧
      ∃ e, Found ((new 5).run lectureDay).log e ∧ Notification.ofEvent lecture = .ofEvent e ∧
        "e1" = e.id ∧ "Lecture" = e.title ∧ .zero = e.startDate ∧ "ann" = e.ownerId := by
  have task : (Task.request announcement).actor =
      .client (.calling (.creating lecture (by decide))) :=
    congrArg Actor.client ofRequest_announcement
  have items : ((new 5).run lectureDay).service.notifications.items =
      [⟨"e1", "Lecture", .zero, "ann"⟩] := by
    simp only [lectureDay, run, List.foldl_cons, List.foldl_nil, step, task]
    cbv
  obtain ⟨-, recorded, -⟩ := notifications_genuine 5 lectureDay
  refine ⟨items, recorded _ ?_⟩
  rw [items]
  exact List.mem_singleton_self _

end System
end Agenda
