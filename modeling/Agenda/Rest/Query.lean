import Agenda.Decimal.Integer
import Agenda.Text.Form
import Agenda.Wire

/-! The query of a request: pairs of names and values. -/
namespace Agenda.Rest

inductive QueryError
  | duplicate (name : String)
  | invalid (fault : Decimal.IntegerFault)
  | missing (name : String)
deriving DecidableEq

def QueryError.message : QueryError → String
  | .duplicate name => s!"duplicate field `{name}`"
  | .invalid fault => fault.message
  | .missing name => s!"missing field `{name}`"

namespace Query

def timestamp (value : String) : Except QueryError Timestamp :=
  match Decimal.readInteger 9223372036854775808 9223372036854775807 value with
  | .error fault => .error (.invalid fault)
  | .ok n => .ok (.clamp n)

/-- Goes through the pairs in order. Names other than the two are passed over. -/
def rangeFrom : Option Timestamp → Option Timestamp → List (String × String) →
    Except QueryError RangeQuery
  | none, _, [] => .error (.missing "from")
  | some _, none, [] => .error (.missing "to")
  | some start, some stop, [] => .ok ⟨start, stop⟩
  | start, stop, (name, value) :: rest =>
    if name = "from" then
      if start.isSome then .error (.duplicate name)
      else match timestamp value with
        | .error e => .error e
        | .ok t => rangeFrom (some t) stop rest
    else if name = "to" then
      if stop.isSome then .error (.duplicate name)
      else match timestamp value with
        | .error e => .error e
        | .ok t => rangeFrom start (some t) rest
    else rangeFrom start stop rest

def range (query : Bytes) : Except QueryError RangeQuery :=
  rangeFrom none none (Text.Form.pairs query)

end Query
end Agenda.Rest
