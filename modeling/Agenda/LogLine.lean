import Agenda.Json.Codec
import Agenda.LogFilter

/-! The lines of a program's log: one JSON object for each notice. -/
namespace Agenda

def FieldValue.json : FieldValue → String
  | .text s => Json.writeText s
  | .integer n => toString n

/-- The line of a notice in the log of a program. -/
def Notice.line (role : Role) (n : Notice) : String :=
  let members :=
    [("v", "0"), ("name", Json.writeText role.program), ("msg", Json.writeText n.message),
      ("level", toString n.level.number), ("target", Json.writeText n.source)] ++
    n.fields.map fun (key, v) => (key, v.json)
  "\x7b" ++ ",".intercalate (members.map fun (key, v) => Json.writeText key ++ ":" ++ v) ++ "\x7d"

/-- The lines of some notices, without those that do not pass the filter. -/
def LogFilter.lines (f : LogFilter) (role : Role) (ns : List Notice) : List String :=
  (ns.filter f.passesNotice).map (·.line role)

end Agenda
