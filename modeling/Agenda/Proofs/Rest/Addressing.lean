import Agenda.Proofs.Rest.Refinement
import Agenda.Proofs.Text.Lossy
import Agenda.Proofs.Text.Percent

/-! Which events a path can name. An id may be any text, as whatever a path has no room for is
escaped; but there is no path with a segment for the empty one. -/
namespace Agenda.Rest

namespace Route

open Text (bytes percentEncode percentDecode escapeWhere)

/-- The path of an event. -/
def address (id : String) : String := "/api/v1/events/" ++ Text.ofAscii (percentEncode (bytes id))

theorem bytes_address (id : String) :
    bytes (address id) = bytes "/api/v1/events/" ++ percentEncode (bytes id) := by
  change bytes ("/api/v1/events/" ++ Text.ofAscii (percentEncode (bytes id))) = _
  rw [Text.bytes_append, Text.bytes_ofAscii Text.percentEncode_ascii]

/-- All of it is the path. -/
theorem pathOf_address (id : String) : pathOf (bytes (address id)) = bytes (address id) := by
  have fixed : ∀ c ∈ bytes "/api/v1/events/", c ≠ 0x23 ∧ c ≠ 0x3F := by decide +kernel
  have free : ∀ c ∈ bytes (address id), c ≠ 0x23 ∧ c ≠ 0x3F := by
    intro c member
    rw [bytes_address, List.mem_append] at member
    rcases member with front | encoded
    · exact fixed c front
    · rcases Text.mem_percentEncode encoded with rfl | unreserved
      · decide
      · constructor <;> rintro rfl <;> exact absurd unreserved (by decide)
  have whole {d : UInt8} (none : ∀ c ∈ bytes (address id), c ≠ d) :
      (bytes (address id)).takeWhile (· ≠ d) = bytes (address id) :=
    List.takeWhile_eq_self_iff.mpr fun c member => decide_eq_true (none c member)
  rw [pathOf, withoutFragment, whole fun c member => (free c member).1,
    whole fun c member => (free c member).2]

/-- What stays escaped until the path has been split. -/
theorem kept_eq : (fun c => !Text.isUnreserved c && keepsEscape c) = keepsEscape := by
  funext c
  cases kept : keepsEscape c with
  | false => rw [Bool.and_false]
  | true =>
    simp only [keepsEscape, Bool.or_eq_true, decide_eq_true_eq] at kept
    rcases kept with (rfl | rfl) | rfl <;> rfl

theorem keepsEscape_ascii (c : UInt8) (kept : keepsEscape c = true) : c.toNat < 0x80 := by
  simp only [keepsEscape, Bool.or_eq_true, decide_eq_true_eq] at kept
  rcases kept with (rfl | rfl) | rfl <;> decide

theorem slash_not_mem (b : Bytes) : slash ∉ escapeWhere keepsEscape b := by
  intro member
  obtain ⟨c, -, here⟩ := List.mem_flatMap.mp member
  split at here
  · rcases Text.mem_escapeOf here with same | unreserved
    · exact absurd same (by decide)
    · exact absurd unreserved (by decide)
  · rename_i plain
    rw [← List.mem_singleton.mp here] at plain
    exact plain rfl

theorem segments_address (id : String) : ∃ segment,
    segments (bytes (address id)) = ["api", "v1", "events", segment] ∧
      bytes segment = escapeWhere keepsEscape (bytes id) := by
  obtain ⟨segment, text⟩ := Text.exists_bytes_escapeWhere keepsEscape_ascii id
  refine ⟨segment, ?_, text⟩
  have decoded : percentDecode keepsEscape (bytes (address id)) =
      bytes ("/api/v1/events/" ++ segment) := by
    rw [bytes_address, Text.percentDecode_append (by decide), Text.percentEncode_eq,
      Text.percentDecode_escapeWhere (by decide), kept_eq, Text.bytes_append, text]
  have parts : bytes ("/api/v1/events/" ++ segment) = [] ++ slash :: (bytes "api" ++ slash ::
      (bytes "v1" ++ slash :: (bytes "events" ++ slash :: bytes segment))) :=
    Text.bytes_append _ _
  have whole : slash ∉ bytes segment := text ▸ slash_not_mem _
  simp only [segments, decoded, Text.ofBytesLossy_bytes]
  rw [parts, Text.split_append (by decide), Text.split_append (by decide),
    Text.split_append (by decide), Text.split_append (by decide), Text.split_part whole]
  simp only [List.drop_succ_cons, List.drop_zero, List.map_cons, List.map_nil,
    Text.ofBytesLossy_bytes]

/-- What was kept is decoded in the end. -/
theorem idOf_segment {segment id : String}
    (escaped : bytes segment = escapeWhere keepsEscape (bytes id)) : idOf segment = id := by
  have decoded :
      percentDecode (fun _ => false) (escapeWhere keepsEscape (bytes id)) = bytes id := by
    rw [Text.percentDecode_escapeWhere (by decide),
      Text.escapeWhere_none fun c _ => Bool.and_false _]
  rw [idOf, escaped, decoded, Text.ofBytesLossy_bytes]

theorem idOf_eq_empty_iff {segment : String} : idOf segment = "" ↔ segment = "" := by
  constructor
  · intro empty
    by_contra some_char
    have some_byte : bytes segment ≠ [] := by
      intro none
      apply some_char
      rw [← Text.ofBytesLossy_bytes segment, none]
      rfl
    exact Text.ofBytesLossy_ne_empty (Text.percentDecode_ne_nil some_byte) empty
  · rintro rfl
    rfl

/-- The path of an event is that of its updates and of its removal. -/
theorem ofRequest?_address {id : String} (some_char : id ≠ "") (contentType : Option String)
    (body : Bytes) :
    ofRequest? ⟨"PUT", address id, contentType, body⟩ = some (.update id) ∧
      ofRequest? ⟨"DELETE", address id, contentType, body⟩ = some (.remove id) := by
  obtain ⟨segment, path, escaped⟩ := segments_address id
  obtain rfl := idOf_segment escaped
  have named : segment.isEmpty = false := by
    rw [Bool.eq_false_iff, ne_eq, String.isEmpty_iff]
    exact mt idOf_eq_empty_iff.mpr some_char
  have other : "DELETE" ≠ "PUT" := by decide
  simp only [ofRequest?, pathOf_address, path, ofSegments?, named, other, Bool.false_eq_true,
    if_false, if_true, and_self]

/-- No path names an event with an empty id. -/
theorem named_of_ofRequest? {r : Request} {id : String}
    (route : ofRequest? r = some (.update id) ∨ ofRequest? r = some (.remove id)) : id ≠ "" := by
  unfold ofRequest? at route
  generalize segments (pathOf (bytes r.target)) = path at route
  unfold ofSegments? at route
  split at route
  · split_ifs at route <;> simp at route
  · split_ifs at route <;> simp at route
  · rename_i segment
    by_cases empty : segment.isEmpty = true
    · simp only [empty, if_true, reduceCtorEq, or_self] at route
    · have own : idOf segment = id := by
        rw [if_neg empty] at route
        split_ifs at route <;> simp at route <;> exact route
      rw [String.isEmpty_iff] at empty
      rw [← own, ne_eq, idOf_eq_empty_iff]
      exact empty
  · simp at route

end Route

/-! ## Events by their paths -/

theorem of_map_ok {ε α β : Type} {x : Except ε α} {f : α → β} {y : β} (h : x.map f = .ok y) :
    ∃ a, f a = y := by
  cases x with
  | error e => cases h
  | ok a => exact ⟨a, Except.ok.inj h⟩

/-- An update or a removal is of an event that has a name. -/
theorem named_of_operation {r : Request} {operation : Operation}
    (asks : r.operation = .ok operation) :
    (∀ e, operation = .update e → e.id ≠ "") ∧ ∀ id, operation = .remove id → id ≠ "" := by
  cases route : Route.ofRequest? r with
  | none => simp only [Request.operation, route, reduceCtorEq] at asks
  | some found =>
    cases found with
    | health => simp only [Request.operation, route, reduceCtorEq] at asks
    | create =>
      simp only [Request.operation, route] at asks
      obtain ⟨e, rfl⟩ := of_map_ok asks
      simp
    | list =>
      simp only [Request.operation, route] at asks
      obtain ⟨range, rfl⟩ := of_map_ok asks
      simp
    | update path =>
      obtain ⟨revision, rfl⟩ := update_path route asks
      simpa [Revision.withId] using Route.named_of_ofRequest? (.inl route)
    | remove id =>
      simp only [Request.operation, route, Except.ok.injEq] at asks
      subst asks
      simpa using Route.named_of_ofRequest? (.inr route)

section Created

variable {s : LocalService} {v : Visit} {e : Event}

theorem handle_listed {range : RangeQuery} (asks : v.request.operation = .ok (.list range)) :
    (v.handle s).2 = s := by
  simp only [Visit.handle, Exchange.ofRequest, asks, Exchange.start]
  cases TimeSpan.new range.start range.stop with
  | error reversed => rfl
  | ok span =>
    simp only [Exchange.complete, Visit.storage]
    cases v.fault <;> rfl

/-- Events change under one id at most, and only if a request is about it. -/
theorem handle_cases {operation : Operation} (asks : v.request.operation = .ok operation) :
    let before := s.events.find?
    let after := (v.handle s).2.events.find?
    after = before ∨
      (∃ e, operation = .create e ∧ before e.id = none ∧
        after = Function.update before e.id (some e)) ∨
      (∃ e, operation = .update e ∧ after = Function.update before e.id (some e)) ∨
      ∃ id, operation = .remove id ∧ after = Function.update before id none := by
  intro before after
  cases operation with
  | create e =>
    have told := handle_create (s := s) asks
    simp only [Told] at told
    split_ifs at told with reversed failed taken
    · exact .inl told.2
    · exact .inl told.2
    · exact .inl told.2
    · exact .inr (.inl ⟨e, rfl, by simpa using taken, told.2⟩)
  | update e =>
    have told := handle_update (s := s) asks
    simp only [Told] at told
    split_ifs at told
    · exact .inl told.2
    · exact .inl told.2
    · exact .inl told.2
    · exact .inr (.inr (.inl ⟨e, rfl, told.2⟩))
  | remove id =>
    have told := handle_remove (s := s) asks
    simp only [Told] at told
    split_ifs at told
    · exact .inl told.2
    · exact .inl told.2
    · exact .inr (.inr (.inr ⟨id, rfl, told.2⟩))
  | list range => exact .inl (congrArg (·.events.find?) (handle_listed asks))

theorem handle_created (asks : v.request.operation = .ok (.create e))
    (accepted : (v.handle s).1.status = 201) :
    (v.handle s).2.events.find? = Function.update s.events.find? e.id (some e) := by
  have told := handle_create (s := s) asks
  simp only [Told] at told
  split_ifs at told with reversed broken taken
  · rw [told.1] at accepted
    cases accepted
  · rw [told.1] at accepted
    cases accepted
  · rw [told.1] at accepted
    cases accepted
  · exact told.2

/-- The path of a stored event removes it, and no other. -/
theorem handle_removal {id : String} (some_char : id ≠ "") (stored : s.events.find? id = some e) :
    let removal : Visit := ⟨⟨"DELETE", Route.address id, none, []⟩, none⟩
    (removal.handle s).1 = .json 200 (deletionCodec.write id) ∧
      (removal.handle s).2.events.find? = Function.update s.events.find? id none := by
  intro removal
  have asks : removal.request.operation = .ok (.remove id) := by
    simp only [removal, Request.operation, (Route.ofRequest?_address some_char none []).2]
  have told := handle_remove (s := s) asks
  simp only [Told, stored, reduceCtorEq, if_false] at told
  exact ⟨told.1.written, told.2⟩

/-- An event with an empty id stays as it is, whatever clients ask for. -/
theorem handle_nameless (stored : s.events.find? "" = some e) (v : Visit) :
    (v.handle s).2.events.find? "" = some e := by
  cases asks : v.request.operation with
  | error response =>
    simp only [Visit.handle, Exchange.ofRequest, asks]
    exact stored
  | ok operation =>
    obtain ⟨updates, removes⟩ := named_of_operation asks
    rcases handle_cases (s := s) asks with
      same | ⟨d, -, vacant, after⟩ | ⟨d, rfl, after⟩ | ⟨id, rfl, after⟩
    · rw [same]
      exact stored
    · have other : "" ≠ d.id := by
        intro same
        rw [← same, stored] at vacant
        cases vacant
      rw [after, Function.update_of_ne other]
      exact stored
    · rw [after, Function.update_of_ne (updates d rfl).symm]
      exact stored
    · rw [after, Function.update_of_ne (removes id rfl).symm]
      exact stored

theorem handleAll_nameless (stored : s.events.find? "" = some e) (visits : List Visit) :
    (handleAll visits s).2.events.find? "" = some e := by
  induction visits generalizing s with
  | nil => exact stored
  | cons v later ih =>
    simp only [handleAll]
    exact ih (handle_nameless stored v)

end Created

/-- **Created events can be addressed if and only if they have a name.** For every id but the empty
one, whatever it is made of, there is a path on which an update and a removal are of just this id.
After each creation that is accepted a removal with such a path succeeds, and removes this event and
no other; but an event with an empty id, which may be created as well, stays as it is, whatever
clients ask for and however often. -/
theorem created_addressable_iff (e : Event) :
    ((∃ target, ∀ contentType body,
        Route.ofRequest? ⟨"PUT", target, contentType, body⟩ = some (.update e.id) ∧
        Route.ofRequest? ⟨"DELETE", target, contentType, body⟩ = some (.remove e.id)) ↔
      e.id ≠ "") ∧
    ∀ (s : LocalService) (v : Visit), v.request.operation = .ok (.create e) →
      (v.handle s).1.status = 201 →
      let after := (v.handle s).2
      after.events.find? e.id = some e ∧
      (e.id ≠ "" → ∃ target,
        let removal : Visit := ⟨⟨"DELETE", target, none, []⟩, none⟩
        (removal.handle after).1 = .json 200 (deletionCodec.write e.id) ∧
        (removal.handle after).2.events.find? = Function.update after.events.find? e.id none) ∧
      (e.id = "" → ∀ visits : List Visit,
        (handleAll visits after).2.events.find? e.id = some e) := by
  constructor
  · constructor
    · rintro ⟨target, routes⟩
      exact Route.named_of_ofRequest? (.inr (routes none []).2)
    · exact fun some_char => ⟨Route.address e.id, Route.ofRequest?_address some_char⟩
  · intro s v asks accepted after
    have stored : after.events.find? e.id = some e := by
      rw [handle_created asks accepted, Function.update_self]
    refine ⟨stored, fun some_char => ⟨_, handle_removal some_char stored⟩, fun empty => ?_⟩
    rw [empty] at stored ⊢
    exact handleAll_nameless stored

/-- Posts a lunch with this id. -/
def posted (id : String) : Visit :=
  ⟨⟨"POST", "/api/v1/events", some "application/json", Json.object (sketch id "Lunch")⟩, none⟩

theorem posted_asks (id : String) : (posted id).request.operation =
    .ok (.create ⟨id, "Lunch", .zero, .zero, "", "ann", .zero⟩) := by
  -- All of these requests are alike but for their bodies.
  have same (body : Bytes) : Route.ofRequest? ⟨"POST", "/api/v1/events", some "application/json",
      body⟩ = Route.ofRequest? lunch := rfl
  have route : Route.ofRequest? (posted id).request = some .create := by
    rw [posted, same]
    cbv
  have json : (lunch.contentType.map MediaType.isJson).getD false = true := by cbv
  exact (Asks.create route json rfl (sketch_gives id "Lunch")).operation

theorem posted_accepted (id : String) : ((posted id).handle (.new 5)).1.status = 201 := by
  have told := handle_create (s := .new 5) (posted_asks id)
  have vacant : (LocalService.new 5).events.find? id = none := rfl
  have valid : ¬ Timestamp.zero < Timestamp.zero := by decide
  have works : (posted id).fault.isSome = false := rfl
  simp only [Told, vacant, valid, works, Option.isSome_none, Bool.false_eq_true, if_false] at told
  rw [told.1.written]
  rfl

/-- A path can name what looks like another path, and a lunch with no name stays for good. -/
theorem lunches_posted :
    (∃ target, ((⟨⟨"DELETE", target, none, []⟩, none⟩ : Visit).handle
      ((posted "a/b%2F ü").handle (.new 5)).2).1 =
        .json 200 (deletionCodec.write "a/b%2F ü")) ∧
    ((posted "").handle (.new 5)).1.status = 201 ∧
      ∀ visits, ((handleAll visits ((posted "").handle (.new 5)).2).2.events.find? "").isSome := by
  obtain ⟨-, addressed, -⟩ := (created_addressable_iff _).2 (.new 5) (posted "a/b%2F ü")
    (posted_asks _) (posted_accepted _)
  obtain ⟨-, -, stays⟩ := (created_addressable_iff _).2 (.new 5) (posted "") (posted_asks _)
    (posted_accepted _)
  obtain ⟨target, removed, -⟩ := addressed (by decide)
  exact ⟨⟨target, removed⟩, posted_accepted "", fun visits =>
    Option.isSome_iff_exists.mpr ⟨_, stays rfl visits⟩⟩

/-- There is no path to every event that is created. -/
theorem nameless_not_addressed : ¬ ∀ (s : LocalService) (v : Visit) (e : Event),
    v.request.operation = .ok (.create e) → (v.handle s).1.status = 201 →
      ∃ r, Route.ofRequest? r = some (.remove e.id) := by
  intro always
  obtain ⟨r, route⟩ := always (.new 5) (posted "") _ (posted_asks "") (posted_accepted "")
  exact Route.named_of_ofRequest? (.inr route) rfl

end Agenda.Rest
