import Agenda.Proofs.Rest.Answers
import Agenda.Proofs.Rest.Refinement

/-! What a client reads of events is what is stored of them, and it may send back what it has read:
the text that shows an event is also a body that creates or updates it. -/
namespace Agenda

open Json

/-- The members that show an event, in order. -/
def Event.members (e : Event) : List (String × Bytes) :=
  [("id", Codec.text.encode e.id), ("title", Codec.text.encode e.title),
    ("startDate", Codec.timestamp.encode e.startDate),
    ("endDate", Codec.timestamp.encode e.endDate),
    ("description", Codec.text.encode e.description), ("ownerId", Codec.text.encode e.ownerId),
    ("remindIn", Codec.timestamp.encode e.remindIn)]

namespace Event

theorem encode_members (e : Event) : codec.encode e = object e.members :=
  Codec.encode_record rfl (List.cons_ne_nil _ _)

theorem encode_reply (e : Event) : replyCodec.encode e = object [("event", codec.encode e)] :=
  Codec.encode_record rfl (List.cons_ne_nil _ _)

theorem encode_listing (events : List Event) :
    listingCodec.encode events = object [("events", (Codec.list codec).encode events)] :=
  Codec.encode_record rfl (List.cons_ne_nil _ _)

/-- All that a creation asks for. -/
theorem members_give (e : Event) : (fields (some "")).Gives e.members
    (some e.id, some e.title, some e.startDate, some e.endDate, some e.description,
      some e.ownerId, some e.remindIn, ()) := by
  refine ⟨⟨_, rfl, Codec.text_faithful.spells _⟩, ⟨_, rfl, Codec.text_faithful.spells _⟩,
    ⟨_, rfl, Codec.timestamp_faithful.spells _⟩, ⟨_, rfl, Codec.timestamp_faithful.spells _⟩,
    ⟨_, rfl, Codec.text_faithful.spells _⟩, ⟨_, rfl, Codec.text_faithful.spells _⟩,
    ⟨_, rfl, Codec.timestamp_faithful.spells _⟩, ?_⟩
  -- No member is left.
  intro m member
  cases member

/-- All that an update asks for, and the id. -/
theorem members_give_revision (e : Event) : Revision.fields.Gives e.members
    (some e.title, some e.startDate, some e.endDate, some e.description, some e.ownerId,
      some e.remindIn, ()) := by
  refine ⟨⟨_, rfl, Codec.text_faithful.spells _⟩,
    ⟨_, rfl, Codec.timestamp_faithful.spells _⟩, ⟨_, rfl, Codec.timestamp_faithful.spells _⟩,
    ⟨_, rfl, Codec.text_faithful.spells _⟩, ⟨_, rfl, Codec.text_faithful.spells _⟩,
    ⟨_, rfl, Codec.timestamp_faithful.spells _⟩, ?_⟩
  -- Only the id is left, which nobody asks for.
  intro m member
  rw [List.mem_singleton.mp member]
  exact isSkipped_text e.id

end Event

namespace Rest

variable {r : Request} {e : Event}

theorem create_sent_back (route : Route.ofRequest? r = some .create)
    (json : (r.contentType.map MediaType.isJson).getD false = true)
    (body : r.body = Event.codec.encode e) : r.operation = .ok (.create e) :=
  (Asks.create route json (body.trans e.encode_members) e.members_give).operation

theorem update_sent_back {path : String} (route : Route.ofRequest? r = some (.update path))
    (json : (r.contentType.map MediaType.isJson).getD false = true)
    (body : r.body = Event.codec.encode e) : r.operation = .ok (.update { e with id := path }) :=
  (Asks.update route json (body.trans e.encode_members) e.members_give_revision).operation

/-- **Answers carry events without loss.** A listing is read as the events that it was made of, all
of them and in their order, and the answer that shows one event as this event. An event is shown as
an object with a member for each of its parts; sent back as the body of a creation the same text
asks for just this event, and as the body of an update for this event with the id of the path. -/
theorem answers_carry_events :
    (∀ events : List Event,
      Event.listingCodec.encode events =
        object [("events", (Codec.list Event.codec).encode events)] ∧
      Event.listingCodec.decode (Event.listingCodec.encode events) = .ok events) ∧
    ∀ e : Event,
      Event.replyCodec.encode e = object [("event", Event.codec.encode e)] ∧
      Event.replyCodec.decode (Event.replyCodec.encode e) = .ok e ∧
      Event.codec.encode e = object e.members ∧
      ∀ r : Request, (r.contentType.map MediaType.isJson).getD false = true →
        r.body = Event.codec.encode e →
        (Route.ofRequest? r = some .create → r.operation = .ok (.create e)) ∧
        ∀ path, Route.ofRequest? r = some (.update path) →
          r.operation = .ok (.update { e with id := path }) := by
  refine ⟨fun events => ⟨Event.encode_listing events, ?_⟩, fun e => ⟨e.encode_reply, ?_,
    e.encode_members, fun r json body => ⟨?_, ?_⟩⟩⟩
  · exact Codec.decode_encode Event.listingCodec_faithful events
  · exact Codec.decode_encode Event.replyCodec_faithful e
  · exact fun route => create_sent_back route json body
  · exact fun path route => update_sent_back route json body

/-! All that has to be escaped, and the ends of time. -/

def intricate : Event :=
  ⟨"e1/%2F", "\"Q\\A\"\n𝄞", .least, .greatest, "\u0000\u001f\u007f", "", .greatest⟩

/-- A request that sends back what was read of an event. -/
def echo (method target : String) (e : Event) : Request :=
  ⟨method, target, some "application/json", Event.codec.encode e⟩

theorem intricate_sent_back :
    (echo "POST" "/api/v1/events" intricate).operation = .ok (.create intricate) ∧
      (echo "PUT" "/api/v1/events/e2" intricate).operation =
        .ok (.update { intricate with id := "e2" }) := by
  obtain ⟨-, -, -, sent⟩ := answers_carry_events.2 intricate
  have json : ((some "application/json").map MediaType.isJson).getD false = true := rfl
  have creates : Route.ofSegments? "POST" (Route.segments (Route.pathOf
      (Text.bytes "/api/v1/events"))) = some .create := rfl
  have updates : Route.ofSegments? "PUT" (Route.segments (Route.pathOf
      (Text.bytes "/api/v1/events/e2"))) = some (.update "e2") := rfl
  exact ⟨(sent (echo "POST" "/api/v1/events" intricate) json rfl).1 creates,
    (sent (echo "PUT" "/api/v1/events/e2" intricate) json rfl).2 "e2" updates⟩

end Rest
end Agenda
