/-! The media type of a body, as its header spells it. -/
namespace Agenda.Rest.MediaType

/-- Characters of names. -/
def isToken (c : Char) : Bool :=
  c.isAlphanum || "!#$%&'*+-.^_`|~".toList.contains c

/-- What stands between quotes. -/
def isQuotable (c : Char) : Bool := decide (' ' ≤ c) && decide (c.toNat < 0x7F)

/-- A place inside the parameters: before a name, in a name or value that is empty or not, between
quotes, after them. A quote that follows the opening one is part of what is quoted. -/
inductive Place
  | gap
  | name
  | value (empty : Bool)
  | quoted (empty : Bool)
  | closed

/-- The place after one more character, `none` where it must not stand. -/
def Place.next (c : Char) : Place → Option Place
  | .gap => if c = ' ' then some .gap else if isToken c then some .name else none
  | .name => if isToken c then some .name else if c = '=' then some (.value true) else none
  | .value empty =>
    if empty && c = '\"' then some (.quoted true)
    else if isToken c then some (.value false)
    else if !empty && c = ';' then some .gap else none
  | .quoted empty =>
    if !empty && c = '\"' then some .closed
    else if isQuotable c then some (.quoted false) else none
  | .closed => if c = ';' then some .gap else if c = ' ' then some .closed else none

def Place.isEnd : Place → Bool
  | .gap | .value _ | .closed => true
  | .name | .quoted _ => false

/-- Whether a text is a list of parameters. -/
def parameters : Place → List Char → Bool
  | place, [] => place.isEnd
  | place, c :: rest => match place.next c with
    | some place => parameters place rest
    | none => false

/-- What follows the last plus sign that is not at the front. -/
def suffix? (subtype : List Char) : Option (List Char) :=
  let tail := (subtype.reverse.takeWhile (· ≠ '+')).reverse
  if tail.length + 1 < subtype.length then some tail else none

/-- What a subtype is called without its suffix. -/
def base (subtype : List Char) : List Char :=
  match suffix? subtype with
  | some tail => subtype.take (subtype.length - tail.length - 1)
  | none => subtype

/-- Whether a header names JSON, as its subtype or as the suffix of it, in any case and with any
parameters. -/
def isJson (header : String) : Bool :=
  let text := header.toList.map Char.toLower
  let kind := text.takeWhile (· ≠ '/')
  match text.dropWhile (· ≠ '/') with
  | [] => false
  | _ :: rest =>
    let subtype := rest.takeWhile (· ≠ ';')
    let json := "json".toList
    !kind.isEmpty && kind.all isToken && !subtype.isEmpty && subtype.all isToken &&
      (match rest.dropWhile (· ≠ ';') with
        | [] => true
        | _ :: parameterText => parameters .gap parameterText) &&
      (base subtype == json || suffix? subtype == some json)

end Agenda.Rest.MediaType
