import Mathlib
import Agenda.Proofs.Json.Members
import Agenda.Proofs.Rest.Answers
import Agenda.Proofs.Service
import Agenda.Proofs.Storage.Query
import Agenda.Rest.Route

/-! What clients see of the service is a map from ids to events. Each request is checked, looked up
in the map and answered; what it does not ask for stays as it is. -/
namespace Agenda

/-- The fields of a body that updates an event. -/
def Revision.fields := Json.Fields.field "title" .text none <|
  .field "startDate" .timestamp none <| .field "endDate" .timestamp none <|
  .field "description" .text (some "") <| .field "ownerId" .text none <|
  .field "remindIn" .timestamp none .done

namespace Rest

/-! ## What is asked for -/

/-- What a request asks for: its path and method say which operation, the members of its body or the
pairs of its query say with what. An event that is updated has the id of the path. -/
inductive Asks (r : Request) : Operation → Prop
  | create {ms : List (String × Bytes)} {id title ownerId : String} {description : Option String}
    {startDate endDate remindIn : Timestamp} (route : Route.ofRequest? r = some .create)
    (json : (r.contentType.map MediaType.isJson).getD false = true) (body : r.body = Json.object ms)
    (members : (Event.fields (some "")).Gives ms (some id, some title, some startDate, some endDate,
      description, some ownerId, some remindIn, ())) :
    Asks r (.create
      { id, title, startDate, endDate, description := description.getD "", ownerId, remindIn })
  | update {ms : List (String × Bytes)} {path title ownerId : String} {description : Option String}
    {startDate endDate remindIn : Timestamp} (route : Route.ofRequest? r = some (.update path))
    (json : (r.contentType.map MediaType.isJson).getD false = true) (body : r.body = Json.object ms)
    (members : Revision.fields.Gives ms (some title, some startDate, some endDate, description,
      some ownerId, some remindIn, ())) :
    Asks r (.update
      { id := path, title, startDate, endDate, description := description.getD "", ownerId,
        remindIn })
  | remove {path : String} (route : Route.ofRequest? r = some (.remove path)) :
    Asks r (.remove path)
  | list {range : RangeQuery} (route : Route.ofRequest? r = some .list)
    (query : Query.range (Route.queryOf (Text.bytes r.target)) = .ok range) : Asks r (.list range)

theorem read_object {α ρ σ : Type} {r : Request} {fs : Json.Fields ρ σ}
    {ms : List (String × Bytes)} {slots : σ} {xs : ρ} {name : String} {make : ρ → α} {parts : α → ρ}
    (json : (r.contentType.map MediaType.isJson).getD false = true) (body : r.body = Json.object ms)
    (members : fs.Gives ms slots) (collected : fs.collect slots = .ok xs) :
    r.read (.record name fs make parts) = .ok (make xs) := by
  simp only [Request.read, json, if_true, body,
    Json.Codec.decode_object members collected name make parts]

theorem Asks.operation {r : Request} {operation : Operation} (h : Asks r operation) :
    r.operation = .ok operation := by
  cases h with
  | @create ms id title ownerId description startDate endDate remindIn route json body members =>
    have collected : (Event.fields (some "")).collect (some id, some title, some startDate,
        some endDate, description, some ownerId, some remindIn, ()) =
        .ok (id, title, startDate, endDate, description.getD "", ownerId, remindIn, ()) := by
      cases description <;> rfl
    have read : r.read Event.creationCodec = _ := read_object json body members collected
    simp only [Request.operation, route, read]
    rfl
  | @update ms path title ownerId description startDate endDate remindIn route json body members =>
    have collected : Revision.fields.collect (some title, some startDate, some endDate, description,
        some ownerId, some remindIn, ()) =
        .ok (title, startDate, endDate, description.getD "", ownerId, remindIn, ()) := by
      cases description <;> rfl
    have read : r.read Revision.codec = _ := read_object json body members collected
    simp only [Request.operation, route, read]
    rfl
  | remove route => simp only [Request.operation, route]
  | list route query =>
    simp only [Request.operation, route, Request.range, query]
    rfl

/-- Whatever else the body of an update says, the event has the id of the path. -/
theorem update_path {r : Request} {path : String} {operation : Operation}
    (route : Route.ofRequest? r = some (.update path)) (asks : r.operation = .ok operation) :
    ∃ revision : Revision, operation = .update (revision.withId path) := by
  simp only [Request.operation, route] at asks
  cases read : r.read Revision.codec with
  | error response =>
    rw [read] at asks
    cases asks
  | ok revision =>
    rw [read] at asks
    exact ⟨revision, (Except.ok.inj asks).symm⟩

/-! ## What comes of it -/

/-- A request, and why its call to the storage fails, if it does. -/
structure Visit where
  request : Request
  fault : Option String

namespace Visit

/-- The storage in memory, or the failure that takes its place. -/
def storage (v : Visit) (s : LocalService) (c : Call) : c.Answer × LocalService :=
  match v.fault with
  | none => ((s.answer .new c).1, (s.answer .new c).2.2)
  | some cause => (c.failed (.backend cause) (.backend cause), s)

/-- The answer to a request, and the service after it. -/
def handle (v : Visit) (s : LocalService) : Response × LocalService :=
  let (response, _, after) := (Exchange.ofRequest v.request).1.complete v.storage s
  (response, after)

end Visit

def handleAll : List Visit → LocalService → List Response × LocalService
  | [], s => ([], s)
  | v :: later, s =>
    let (response, s) := v.handle s
    let (responses, s) := handleAll later s
    (response :: responses, s)

/-- A calendar as a map from ids to events. -/
abbrev EventMap := String → Option Event

/-- Comes before in a listing. -/
def Earlier (a b : Event) : Prop :=
  a.startDate < b.startDate ∨ a.startDate = b.startDate ∧ a.id < b.id

/-- What an operation comes to on a map: the answer, and what is read in it, and the map afterwards.
`broken` says whether the storage fails if it is called. -/
def Told (broken : Bool) (before : EventMap) (response : Response) (after : EventMap) :
    Operation → Prop
  | .create e =>
    if e.endDate < e.startDate then response.status = 400 ∧ after = before
    else if broken then response.status = 500 ∧ after = before
    else if (before e.id).isSome then response.status = 400 ∧ after = before
    else response.Carries 201 Event.replyCodec e ∧
      after = Function.update before e.id (some e)
  | .update e =>
    if e.endDate < e.startDate then response.status = 400 ∧ after = before
    else if broken then response.status = 500 ∧ after = before
    else if before e.id = none then response.status = 404 ∧ after = before
    else response.Carries 200 Event.replyCodec e ∧
      after = Function.update before e.id (some e)
  | .remove id =>
    if broken then response.status = 500 ∧ after = before
    else if before id = none then response.status = 404 ∧ after = before
    else response.Carries 200 deletionCodec id ∧ after = Function.update before id none
  | .list range =>
    if range.stop < range.start then response.status = 400 ∧ after = before
    else if broken then response.status = 500 ∧ after = before
    else after = before ∧ ∃ events : List Event, events.Pairwise Earlier ∧
      (∀ e, e ∈ events ↔
        before e.id = some e ∧ range.start ≤ e.startDate ∧ e.startDate ≤ range.stop) ∧
      if events = [] then response.status = 404
      else response.Carries 200 Event.listingCodec events

section Handle

variable {s : LocalService} {v : Visit} {operation : Operation} {p : Pending}

/-- An operation that is refused for its data calls nothing. -/
theorem handle_refused {e : OperationError} (asks : v.request.operation = .ok operation)
    (refused : Exchange.start operation = Exchange.refused e) :
    (v.handle s).1.status = e.serviceError.status ∧ (v.handle s).2 = s := by
  simp only [Visit.handle, Exchange.ofRequest, asks, refused]
  exact ⟨rfl, rfl⟩

theorem settle_failed (p : Pending) (cause : String) :
    (p.settle (p.call.failed (.backend cause) (.backend cause))).1.status = 500 := by
  cases p <;> rfl

/-- A call that fails is answered as an internal error and changes nothing, and one that does not is
answered by the storage. -/
theorem handle_called (asks : v.request.operation = .ok operation)
    (calling : Exchange.start operation = (.calling p, [])) {rest : Prop}
    (works : v.handle s = ((p.settle (s.answer .new p.call).1).1, (s.answer .new p.call).2.2) →
      rest) :
    if v.fault.isSome then (v.handle s).1.status = 500 ∧ (v.handle s).2.events.find? = s.events.find?
    else rest := by
  cases fault : v.fault with
  | none =>
    apply works
    simp only [Visit.handle, Exchange.ofRequest, asks, calling, Exchange.complete, Visit.storage,
      fault]
  | some cause =>
    simp only [Visit.handle, Exchange.ofRequest, asks, calling, Exchange.complete, Visit.storage,
      fault]
    exact ⟨settle_failed p cause, trivial⟩

/-- An operation that is refused if one instant comes before another, and otherwise calls the
storage. -/
theorem handle_ordered {start stop : Timestamp} {e : OperationError}
    (asks : v.request.operation = .ok operation)
    (refused : ¬start ≤ stop → Exchange.start operation = Exchange.refused e)
    (bad : e.serviceError.status = 400) {rest : Prop}
    (ordered : start ≤ stop → if v.fault.isSome then
        (v.handle s).1.status = 500 ∧ (v.handle s).2.events.find? = s.events.find? else rest) :
    if stop < start then (v.handle s).1.status = 400 ∧ (v.handle s).2.events.find? = s.events.find?
    else if v.fault.isSome then
      (v.handle s).1.status = 500 ∧ (v.handle s).2.events.find? = s.events.find?
    else rest := by
  by_cases valid : start ≤ stop
  · have in_order : ¬stop < start := Int.not_lt.mpr valid
    rw [if_neg in_order]
    exact ordered valid
  · have reversed : stop < start := Int.not_le.mp valid
    obtain ⟨status, same⟩ := handle_refused (s := s) asks (refused valid)
    rw [if_pos reversed, same]
    exact ⟨status.trans bad, rfl⟩

/-- Filing under one id is an update of the map. -/
theorem find?_eq_update {c d : EventStore} {id : String} {x : Option Event}
    (found : ∀ k, d.find? k = if k = id then x else c.find? k) :
    d.find? = Function.update c.find? id x := by
  funext k
  rw [found k, Function.update_apply]

theorem handle_create {e : Event} (asks : v.request.operation = .ok (.create e)) :
    Told v.fault.isSome s.events.find? (v.handle s).1 (v.handle s).2.events.find? (.create e) := by
  apply handle_ordered asks (fun invalid => dif_neg (mt Event.hasValidDates_iff.mp invalid)) rfl
  intro valid
  apply handle_called asks (dif_pos (Event.hasValidDates_iff.mpr valid))
  intro handled
  rw [handled]
  cases found : s.events.find? e.id with
  | some old =>
    have taken := Collection.insert_taken (x := e) found
    simp only [Pending.call, LocalService.answer, EventStore.insert, taken, LocalService.storing,
      Option.isSome_some, if_true]
    exact ⟨rfl, trivial⟩
  | none =>
    obtain ⟨d, stored⟩ := Collection.insert_vacant found e
    simp only [Pending.call, LocalService.answer, EventStore.insert, stored, LocalService.storing,
      Option.isSome_none, Bool.false_eq_true, if_false]
    exact ⟨Response.carries Event.replyCodec_faithful 201 e,
      find?_eq_update (Collection.find?_insert stored)⟩

theorem handle_update {e : Event} (asks : v.request.operation = .ok (.update e)) :
    Told v.fault.isSome s.events.find? (v.handle s).1 (v.handle s).2.events.find? (.update e) := by
  apply handle_ordered asks (fun invalid => dif_neg (mt Event.hasValidDates_iff.mp invalid)) rfl
  intro valid
  apply handle_called asks (dif_pos (Event.hasValidDates_iff.mpr valid))
  intro handled
  rw [handled]
  cases found : s.events.find? e.id with
  | none =>
    have missing := Collection.save_missing (x := e) found
    simp only [Pending.call, LocalService.answer, EventStore.save, missing, LocalService.storing,
      if_true]
    exact ⟨rfl, trivial⟩
  | some old =>
    obtain ⟨d, stored⟩ := Collection.save_present found e
    simp only [Pending.call, LocalService.answer, EventStore.save, stored, LocalService.storing,
      reduceCtorEq, if_false]
    exact ⟨Response.carries Event.replyCodec_faithful 200 e,
      find?_eq_update (Collection.find?_save stored)⟩

theorem handle_remove {id : String} (asks : v.request.operation = .ok (.remove id)) :
    Told v.fault.isSome s.events.find? (v.handle s).1 (v.handle s).2.events.find? (.remove id) := by
  apply handle_called (p := .removing id) asks rfl
  intro handled
  rw [handled]
  cases found : s.events.find? id with
  | none =>
    have missing := Collection.delete_missing found
    simp only [Pending.call, LocalService.answer, missing, LocalService.storing, if_true]
    exact ⟨rfl, trivial⟩
  | some old =>
    obtain ⟨d, stored⟩ := Collection.delete_present found
    simp only [Pending.call, LocalService.answer, stored, LocalService.storing, reduceCtorEq,
      if_false]
    exact ⟨Response.carries deletionCodec_faithful 200 id,
      find?_eq_update (Collection.find?_delete stored)⟩

end Handle

/-- Members of a body in no particular order and without a description. -/
def sketch (id title : String) : List (String × Bytes) :=
  [("remindIn", Json.Codec.timestamp.encode .zero), ("title", Json.Codec.text.encode title),
    ("id", Json.Codec.text.encode id), ("ownerId", Json.Codec.text.encode "ann"),
    ("startDate", Json.Codec.timestamp.encode .zero), ("endDate", Json.Codec.timestamp.encode .zero)]

def lunch : Request :=
  ⟨"POST", "/api/v1/events", some "application/json", Json.object (sketch "e1" "Lunch")⟩

theorem sketch_gives (id title : String) : (Event.fields (some "")).Gives (sketch id title)
    (some id, some title, some .zero, some .zero, none, some "ann", some .zero, ()) := by
  refine ⟨⟨_, rfl, Json.Codec.text_faithful.spells _⟩,
    ⟨_, rfl, Json.Codec.text_faithful.spells _⟩,
    ⟨_, rfl, Json.Codec.timestamp_faithful.spells _⟩,
    ⟨_, rfl, Json.Codec.timestamp_faithful.spells _⟩, by simp [sketch],
    ⟨_, rfl, Json.Codec.text_faithful.spells _⟩,
    ⟨_, rfl, Json.Codec.timestamp_faithful.spells _⟩, ?_⟩
  -- No member is left.
  intro m member
  cases member

end Rest
end Agenda
