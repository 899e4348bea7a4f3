import Agenda.Notice

/-! Which levels pass a filter. -/
namespace Agenda

/-- The least important level that passes. -/
inductive Threshold
  | off
  | error
  | warn
  | info
  | debug
  | trace
deriving DecidableEq

namespace Threshold

def rank : Threshold → Nat
  | .off => 0
  | .error => 1
  | .warn => 2
  | .info => 3
  | .debug => 4
  | .trace => 5

def all : List (String × Threshold) :=
  [("off", .off), ("error", .error), ("warn", .warn), ("info", .info), ("debug", .debug),
    ("trace", .trace)]

/-- The number that some digits write, after a plus sign or without one. -/
def number? (text : List Char) : Option Nat :=
  let ds := match text with
    | '+' :: rest => rest
    | other => other
  if ds.isEmpty || !ds.all Char.isDigit then none
  else some (ds.foldl (fun n d => 10 * n + (d.toNat - '0'.toNat)) 0)

/-- A level by its name, in any case, or by its rank. -/
def ofText? (text : List Char) : Option Threshold :=
  match number? text with
  | some n => (all.find? (·.2.rank = n)).map (·.2)
  | none => all.lookup (String.ofList (text.map Char.toLower))

/-- Whether a level passes. -/
def passes (t : Threshold) : Level → Bool
  | .error => 1 ≤ t.rank
  | .warn => 2 ≤ t.rank
  | .info => 3 ≤ t.rank
  | .debug => 4 ≤ t.rank

end Threshold
end Agenda
