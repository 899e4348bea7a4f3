import Agenda.Url

/-! Where the relational storage is to be found. -/
namespace Agenda

/-- Where a database server listens: at a port of a machine, or in a directory of this one. -/
structure StorageAddress where
  machine : String
  directory : Option String
deriving DecidableEq

namespace StorageAddress

/-- Where a server listens if nothing is said. -/
def standard : StorageAddress := ⟨"localhost", none⟩

/-- A place that begins with a slash is a directory. -/
def withPlace (a : StorageAddress) (place : String) : StorageAddress :=
  if place.toList.head? = some '/' then { a with directory := some place }
  else { a with machine := place }

def encryptionModes : List String :=
  ["disable", "allow", "prefer", "require", "verify-ca", "verify-full"]

def isNumber (high : Nat) (value : String) : Bool :=
  match Decimal.readInteger 0 high value with
  | .ok _ => true
  | .error _ => false

/-- Takes an option into account, if it is well-formed. Most options may have any value, and those
that are not known do not count. -/
def withOption? (a : StorageAddress) : String × String → Option StorageAddress
  | ("sslmode", value) | ("ssl-mode", value) =>
    if encryptionModes.contains (value.map Char.toLower) then some a else none
  | ("statement-cache-capacity", value) =>
    if isNumber 18446744073709551615 value then some a else none
  | ("port", value) => if isNumber 65535 value then some a else none
  | ("host", value) => some (a.withPlace value)
  | ("hostaddr", value) =>
    if Ip.isV4 value.toList || Ip.isV6 value.toList then some { a with machine := value } else none
  | _ => some a

/-- The text that stands in a part of an address. -/
def decoded? (part : List Char) : Option String :=
  Text.ofBytes? (Text.percentDecode (fun _ => false) (Text.bytes (String.ofList part)))

/-- Reads the address of a database: a server, a user, a password and a name, all of which have to
be text, and options. -/
def ofUrl? (u : Url) : Option StorageAddress := do
  let a ← match u.host with
    | none => some standard
    | some host => (decoded? host).map standard.withPlace
  let _ ← (u.user :: u.password :: u.path).mapM decoded?
  (Text.Form.pairs (Text.bytes (String.ofList u.query))).foldlM withOption? a

def ofText? (text : String) : Option StorageAddress := (Url.ofText? text).bind ofUrl?

/-- Whether the machine is found without a network: by its number or as this one. -/
def isKnown (a : StorageAddress) : Bool :=
  let name := a.machine.toList
  let inner := if name.head? = some '[' then name.drop 1 |>.dropLast else name
  name = "localhost".toList || Ip.isLooseV4 name || Ip.isV6 inner

end StorageAddress
end Agenda
