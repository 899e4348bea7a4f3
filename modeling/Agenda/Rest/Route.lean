import Agenda.Rest.MediaType
import Agenda.Rest.Operation
import Agenda.Rest.Query

/-! Which operation a request asks for. A path is decoded in two steps: before it is matched, the
escapes of slashes, plus signs and percent signs stay as they are, so that an id may hold them. -/
namespace Agenda.Rest

inductive Route
  | create
  | list
  | update (id : String)
  | remove (id : String)
  | health
deriving DecidableEq

namespace Route

def slash : UInt8 := 0x2F

/-- The target without what follows a number sign. -/
def withoutFragment (target : Bytes) : Bytes := target.takeWhile (· ≠ 0x23)

def pathOf (target : Bytes) : Bytes := (withoutFragment target).takeWhile (· ≠ 0x3F)

def queryOf (target : Bytes) : Bytes := ((withoutFragment target).dropWhile (· ≠ 0x3F)).drop 1

def keepsEscape (c : UInt8) : Bool := c = slash || c = Text.Form.plus || c = Text.percent

/-- The segments of a path behind its first slash, as they are matched. -/
def segments (path : Bytes) : List String :=
  let text := Text.ofBytesLossy (Text.percentDecode keepsEscape path)
  ((Text.split slash (Text.bytes text)).drop 1).map Text.ofBytesLossy

/-- The id that a segment stands for. -/
def idOf (segment : String) : String :=
  Text.ofBytesLossy (Text.percentDecode (fun _ => false) (Text.bytes segment))

def ofSegments? (method : String) : List String → Option Route
  | ["api", "v1", "events"] =>
    if method = "POST" then some .create else if method = "GET" then some .list else none
  | ["api", "v1", "healthcheck"] => if method = "GET" then some .health else none
  | ["api", "v1", "events", segment] =>
    if segment.isEmpty then none
    else if method = "PUT" then some (.update (idOf segment))
    else if method = "DELETE" then some (.remove (idOf segment))
    else none
  | _ => none

def ofRequest? (r : Request) : Option Route :=
  ofSegments? r.method (segments (pathOf (Text.bytes r.target)))

end Route

/-- What a client is told of a body that cannot be read. -/
def bodyFault : Json.ReadError → String
  | .malformed => "<syntax>"
  | .truncated => "<eof>"
  | .mismatch m => m.message

/-- Reads a body, which has to be declared as JSON. -/
def Request.read {α : Type} (r : Request) (codec : Json.Codec α) : Except Response α :=
  if (r.contentType.map MediaType.isJson).getD false then
    match codec.decode r.body with
    | .error e => .error (.unreadable ("Json deserialize error: " ++ bodyFault e))
    | .ok x => .ok x
  else .error (.unreadable "Content type error")

def Request.range (r : Request) : Except Response RangeQuery :=
  match Query.range (Route.queryOf (Text.bytes r.target)) with
  | .error e => .error (.unreadable ("Query deserialize error: " ++ e.message))
  | .ok range => .ok range

def greeting : String := "Yo! We are up!\r\n"

/-- What a request asks for, or the answer that can be given right away. -/
def Request.operation (r : Request) : Except Response Operation :=
  match Route.ofRequest? r with
  | none => .error .noRoute
  | some .health => .error (.json 200 (healthCodec.write greeting))
  | some .create => (r.read Event.creationCodec).map .create
  | some (.update id) => (r.read Revision.codec).map fun revision => .update (revision.withId id)
  | some (.remove id) => .ok (.remove id)
  | some .list => r.range.map .list

def Exchange.ofRequest (r : Request) : Exchange × List Notice :=
  match r.operation with
  | .error response => (.answered response, [])
  | .ok operation => start operation

end Agenda.Rest
