import Agenda.Json.Record
import Agenda.Notification

/-! The JSON forms of what the service sends, receives and answers. -/
namespace Agenda

open Json (Codec Fields)

/-- The values of an event's fields in the order of its JSON forms. -/
abbrev Event.Values :=
  String × String × Timestamp × Timestamp × String × String × Timestamp × Unit

def Event.values (e : Event) : Event.Values :=
  (e.id, e.title, e.startDate, e.endDate, e.description, e.ownerId, e.remindIn, ())

def Event.ofValues : Event.Values → Event
  | (id, title, startDate, endDate, description, ownerId, remindIn, ()) =>
    { id, title, startDate, endDate, description, ownerId, remindIn }

/-- How far an event's fields are read. -/
abbrev Event.Slots :=
  Option String × Option String × Option Timestamp × Option Timestamp × Option String ×
    Option String × Option Timestamp × Unit

/-- The fields of an event in camel case. -/
def Event.fields (description : Option String) : Fields Event.Values Event.Slots :=
  .field "id" .text none <| .field "title" .text none <|
  .field "startDate" .timestamp none <| .field "endDate" .timestamp none <|
  .field "description" .text description <| .field "ownerId" .text none <|
  .field "remindIn" .timestamp none .done

/-- The fields of an event in snake case. -/
def Event.plainFields : Fields Event.Values Event.Slots :=
  .field "id" .text none <| .field "title" .text none <|
  .field "start_date" .timestamp none <| .field "end_date" .timestamp none <|
  .field "description" .text none <| .field "owner_id" .text none <|
  .field "remind_in" .timestamp none .done

/-- An event by itself. -/
def Event.plainCodec : Codec Event := .record "Event" plainFields ofValues values

/-- An event inside an answer. -/
def Event.codec : Codec Event := .record "EventDTO" (fields none) ofValues values

/-- The body of a request that creates an event. The description may be left out. -/
def Event.creationCodec : Codec Event := .record "RequestBody" (fields (some "")) ofValues values

/-- The answer that shows one event. -/
def Event.replyCodec : Codec Event :=
  .record "EventResponse" (.field "event" codec none .done) (·.1) (·, ())

/-- The answer that lists events. -/
def Event.listingCodec : Codec (List Event) :=
  .record "APIResponse" (.field "events" (.list codec) none .done) (·.1) (·, ())

/-- The body of a request that updates an event. The description may be left out. -/
def Revision.codec : Codec Revision :=
  .record "RequestBody"
    (.field "title" .text none <|
      .field "startDate" .timestamp none <| .field "endDate" .timestamp none <|
      .field "description" .text (some "") <| .field "ownerId" .text none <|
      .field "remindIn" .timestamp none .done)
    (fun (title, startDate, endDate, description, ownerId, remindIn, ()) =>
      { title, startDate, endDate, description, ownerId, remindIn })
    (fun r => (r.title, r.startDate, r.endDate, r.description, r.ownerId, r.remindIn, ()))

/-- The answer that names a deleted event. -/
def deletionCodec : Codec String :=
  .record "APIResponse" (.field "eventId" .text none .done) (·.1) (·, ())

/-- The answer to a health check. -/
def healthCodec : Codec String :=
  .record "APIResponse" (.field "message" .text none .done) (·.1) (·, ())

/-- The ends of a listing, in whatever order they come. -/
structure RangeQuery where
  start : Timestamp
  stop : Timestamp
deriving DecidableEq

def RangeQuery.codec : Codec RangeQuery :=
  .record "QueryParams" (.field "from" .timestamp none <| .field "to" .timestamp none .done)
    (fun (start, stop, ()) => ⟨start, stop⟩) (fun q => (q.start, q.stop, ()))

/-- A notification as it is queued. -/
def Notification.codec : Codec Notification :=
  .record "EventNotification"
    (.field "event_id" .text none <| .field "title" .text none <|
      .field "date" .timestamp none <| .field "user_id" .text none .done)
    (fun (eventId, title, date, userId, ()) => { eventId, title, date, userId })
    (fun n => (n.eventId, n.title, n.date, n.userId, ()))

/-- The payload that carries a notification. -/
def Notification.toBytes (n : Notification) : Bytes := codec.encode n

def Notification.ofBytes (payload : Bytes) : Except Json.ReadError Notification :=
  codec.decode payload

end Agenda
