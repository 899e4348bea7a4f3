import Agenda.Decimal.Shortest
import Agenda.Text.Quoted

/-! What can be wrong with a JSON document that should hold a certain kind of value. -/
namespace Agenda.Json

/-- What a reader looks for. -/
inductive Expected
  | text
  | integer
  | sequence
  | record (name : String)
deriving DecidableEq

def Expected.phrase : Expected → String
  | .text => "a string"
  | .integer => "i64"
  | .sequence => "a sequence"
  | .record name => s!"struct {name}"

/-- What stands there instead. -/
inductive Found
  | null
  | boolean (b : Bool)
  | integer (n : Int)
  | floating (negative : Bool) (magnitude : Decimal.Scientific)
  | text (s : String)
  | sequence
  | map
deriving DecidableEq

def Found.phrase : Found → String
  | .null => "null"
  | .boolean b => s!"boolean `{b}`"
  | .integer n => s!"integer `{n}`"
  | .floating negative m => "floating point `" ++ (if negative then "-" else "") ++ m.text ++ "`"
  | .text s => "string " ++ Text.quoted s
  | .sequence => "sequence"
  | .map => "map"

/-- A well-formed value that is not the one looked for. -/
inductive Mismatch
  | missingField (key : String)
  | duplicateField (key : String)
  | wrongType (found : Found) (expected : Expected)
  | wrongValue (found : Found) (expected : Expected)
  | wrongLength (length : Nat) (name : String) (fields : Nat)
deriving DecidableEq

def Mismatch.message : Mismatch → String
  | .missingField key => s!"missing field `{key}`"
  | .duplicateField key => s!"duplicate field `{key}`"
  | .wrongType found expected => s!"invalid type: {found.phrase}, expected {expected.phrase}"
  | .wrongValue found expected => s!"invalid value: {found.phrase}, expected {expected.phrase}"
  | .wrongLength length name fields =>
    s!"invalid length {length}, expected struct {name} with {fields} element" ++
      (if fields = 1 then "" else "s")

/-- Why reading stopped: the text is no JSON, it ends too early, or it holds another value. -/
inductive ReadError
  | malformed
  | truncated
  | mismatch (m : Mismatch)
deriving DecidableEq

end Agenda.Json
