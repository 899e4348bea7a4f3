import Agenda.LogFilter.Threshold
import Agenda.Text.Pattern
import Agenda.Text.Split

/-! The directives of a log filter, as they are written: `source[activity`, the fields between
braces, and `]=level`, each part of which but the first may be missing, or a level alone. -/
namespace Agenda

/-- What a directive asks of a field: to be there, or to be there with a certain value. -/
structure FieldCondition where
  name : String
  hasValue : Bool
deriving DecidableEq

structure Directive where
  /-- How the names of the sources begin, `none` for all sources. -/
  source : Option String
  /-- The activity that notices have to be part of. -/
  activity : Option String
  fields : List FieldCondition
  threshold : Threshold
deriving DecidableEq

namespace Directive

inductive Fault
  | malformed
  /-- A part of the directive begins or ends inside a character. -/
  | misaligned
deriving DecidableEq

/-- The directive of which nothing has been read yet. -/
def blank : Directive := ⟨none, none, [], .trace⟩

/-- Divides a text behind a number of bytes. -/
def divide : Nat → List Char → Except Fault (List Char × List Char)
  | 0, text => .ok ([], text)
  | _ + 1, [] => .error .misaligned
  | n + 1, c :: rest =>
    if c.utf8Size ≤ n + 1 then (divide (n + 1 - c.utf8Size) rest).map fun (a, b) => (c :: a, b)
    else .error .misaligned

/-- What stands behind the byte `first`. -/
def behind (text : List Char) (first : Nat) : Except Fault (List Char) :=
  (divide first text).map (·.2)

/-- What stands between two bytes. -/
def part (text : List Char) (first last : Nat) : Except Fault (List Char) := do
  return (← divide (last - first) (← behind text first)).1

/-- A number with a plus sign in front of it, which no pattern begins with. -/
def isPositive : List Char → Bool
  | '+' :: rest =>
    let mantissa := rest.takeWhile fun c => c ≠ 'e' && c ≠ 'E'
    let whole := mantissa.takeWhile (· ≠ '.')
    let fraction := (mantissa.drop whole.length).drop 1
    let exponent := match rest.drop mantissa.length with
      | _ :: '+' :: ds | _ :: '-' :: ds | _ :: ds => !ds.isEmpty && ds.all Char.isDigit
      | [] => true
    ["inf", "infinity", "nan"].contains (String.ofList (rest.map Char.toLower)) ||
      (!(whole ++ fraction).isEmpty && (whole ++ fraction).all Char.isDigit && exponent)
  | _ => false

/-- The condition on a field: a name, or a name and a value with an equals sign between them. A
value is a number or else a pattern. -/
def condition (text : List Char) : Except Fault FieldCondition :=
  match Text.split '=' text with
  | name :: value :: _ =>
    if isPositive value || Text.Pattern.isWellFormed (String.ofList value) then
      .ok ⟨String.ofList name, true⟩
    else .error .malformed
  | _ => if text.isEmpty then .error .malformed else .ok ⟨String.ofList text, false⟩

/-- Where the reader of a directive stands, and at which byte the part began that it is in. -/
inductive Place
  | start
  | source (first : Nat)
  | activity (first : Nat)
  | field (first : Nat)
  | fields
  | scope
  | level (first : Nat)
deriving DecidableEq

def isNameStart (c : Char) : Bool := c = '-' || c = ':' || c = '_' || Text.isAlphanumeric c

/-- Reads the character `c` at the byte `here`. The parts are cut out of `text`. -/
def step (text : List Char) (here : Nat) (c : Char) (d : Directive) :
    Place → Except Fault (Place × Directive)
  | .start =>
    if c = '[' then .ok (.activity (here + 1), d)
    else if isNameStart c then .ok (.source here, d) else .error .malformed
  | .source first =>
    if c = '=' || c = '[' then
      (part text first here).map fun name =>
        (if c = '=' then .level (here + 1) else .activity (here + 1),
          { d with source := some (String.ofList name) })
    else .ok (.source first, d)
  | .activity first =>
    if c = ']' then
      (part text first here).map fun name =>
        (.scope, { d with activity := some (String.ofList name) })
    else if c = '\x7b' then
      (part text first here).map fun name =>
        (.field (here + 1),
          { d with activity := if name.isEmpty then none else some (String.ofList name) })
    else .ok (.activity first, d)
  | .field first =>
    if c = '\x7d' then do
      let field ← condition (← part text first here)
      return (.fields, { d with fields := d.fields ++ [field] })
    else .ok (.field first, d)
  | .fields => if c = ']' then .ok (.scope, d) else .error .malformed
  | .scope => if c = '=' then .ok (.level (here + 1), d) else .error .malformed
  | .level first => .ok (.level first, d)

/-- Reads one character after another. -/
def scan (text : List Char) : (here : Nat) → List Char → Place → Directive →
    Except Fault (Place × Directive)
  | _, [], place, d => .ok (place, d)
  | here, c :: rest, place, d => do
    let (place, d) ← step text here c d place
    scan text (here + c.utf8Size) rest place d

/-- The directive at the end of its text. A name alone is a level, or else a source of which
everything passes. -/
def finish (text : List Char) (d : Directive) : Place → Except Fault Directive
  | .source first => do
    let name ← behind text first
    match Threshold.ofText? name with
    | some threshold => return { d with threshold }
    | none => return { d with source := some (String.ofList name) }
  | .level first => do
    let level ← behind text first
    if level.isEmpty then return d
    match Threshold.ofText? level with
    | some threshold => return { d with threshold }
    | none => .error .malformed
  | .scope => .ok d
  | _ => .error .malformed

/-- Reads a directive. Blanks around it do not count where it is taken apart, but the parts are cut
out of the text with the blanks, at the places where they would be without. -/
def read (text : List Char) : Except Fault Directive := do
  let (place, d) ← scan text 0 (Text.trim Text.isBlank text) .start blank
  finish text d place

/-- Whether it can be told from a notice alone that the directive is about it. -/
def isStatic (d : Directive) : Bool := d.activity.isNone && d.fields.all (!·.hasValue)

end Directive
end Agenda
