import Agenda.Json.Skip
import Agenda.Timestamp

/-! A codec reads values of one type from JSON and writes them as JSON. -/
namespace Agenda.Json

/-- How a type is read, from the left of a text and giving back the rest, and how it is written. -/
structure Codec (α : Type) where
  read : Bytes → Except ReadError (α × Bytes)
  write : α → String

/-- The error of a reader that looks for something else than the value that begins with `c`. The
value is read as far as it is named in the error, and anything wrong with that part counts first. -/
def unexpected (expected : Expected) (c : UInt8) (rest : Bytes) : ReadError :=
  let wrong (found : Found) : ReadError := .mismatch (.wrongType found expected)
  let word (w : Bytes) (found : Found) : ReadError := match literal w rest with
    | .error e => e
    | .ok _ => wrong found
  if c = 0x6E then word [0x75, 0x6C, 0x6C] .null
  else if c = 0x74 then word [0x72, 0x75, 0x65] (.boolean true)
  else if c = 0x66 then word [0x61, 0x6C, 0x73, 0x65] (.boolean false)
  else if c = 0x2D ∨ (digit? c).isSome then
    match readNumber (c :: rest) with
    | .error e => e
    | .ok (n, _) => wrong n.found
  else if c = quote then
    match readString rest with
    | .error e => e
    | .ok (s, _) => wrong (.text s)
  else if c = openBracket then wrong .sequence
  else if c = openBrace then wrong .map
  else .malformed

/-- The escape of a character below U+0020 that has no short form. -/
def controlEscape (c : Char) : List Char :=
  let ds := Nat.toDigits 16 c.toNat
  '\\' :: 'u' :: List.replicate (4 - ds.length) '0' ++ ds

def escapeChar (c : Char) : List Char :=
  if c = '\"' then ['\\', '\"']
  else if c = '\\' then ['\\', '\\']
  else if c = '\x08' then ['\\', 'b']
  else if c = '\x0c' then ['\\', 'f']
  else if c = '\n' then ['\\', 'n']
  else if c = '\r' then ['\\', 'r']
  else if c = '\t' then ['\\', 't']
  else if c.toNat < 0x20 then controlEscape c
  else [c]

def writeText (s : String) : String :=
  String.ofList ('\"' :: s.toList.flatMap escapeChar ++ ['\"'])

def readText (input : Bytes) : Except ReadError (String × Bytes) :=
  match skipBlanks input with
  | [] => .error .truncated
  | c :: rest => if c = quote then readString rest else .error (unexpected .text c rest)

def Codec.text : Codec String := ⟨readText, writeText⟩

def readTimestamp (input : Bytes) : Except ReadError (Timestamp × Bytes) :=
  match skipBlanks input with
  | [] => .error .truncated
  | c :: rest =>
    if c = 0x2D ∨ (digit? c).isSome then
      match readNumber (c :: rest) with
      | .error e => .error e
      | .ok (.floating negative m, _) =>
        .error (.mismatch (.wrongType (.floating negative m.shortest) .integer))
      | .ok (.integer n, rest) => match Timestamp.ofInt? n with
        | some t => .ok (t, rest)
        | none => .error (.mismatch (.wrongValue (.integer n) .integer))
    else .error (unexpected .integer c rest)

def Codec.timestamp : Codec Timestamp := ⟨readTimestamp, fun t => toString t.seconds⟩

/-- Whether an array goes on, and the rest from its next element on. -/
def nextElement (first : Bool) (input : Bytes) : Except ReadError (Bool × Bytes) :=
  match skipBlanks input with
  | [] => .error .truncated
  | c :: rest =>
    if c = closeBracket then .ok (false, c :: rest)
    else if first then .ok (true, c :: rest)
    else if c = comma then match skipBlanks rest with
      | [] => .error .truncated
      | c :: rest => if c = closeBracket then .error .malformed else .ok (true, c :: rest)
    else .error .malformed

/-- The end of an array. -/
def endArray (input : Bytes) : Except ReadError Bytes :=
  match skipBlanks input with
  | [] => .error .truncated
  | c :: rest => if c = closeBracket then .ok rest else .error .malformed

/-- The elements of an array up to its closing bracket, which stays. Every element takes a byte, so
the length of the input is enough of `fuel`. -/
def readElements {α : Type} (item : Codec α) :
    Nat → Bool → List α → Bytes → Except ReadError (List α × Bytes)
  | 0, _, _, _ => .error .truncated
  | fuel + 1, first, seen, input => match nextElement first input with
    | .error e => .error e
    | .ok (false, rest) => .ok (seen.reverse, rest)
    | .ok (true, rest) => match item.read rest with
      | .error e => .error e
      | .ok (x, rest) => readElements item fuel false (x :: seen) rest

def readList {α : Type} (item : Codec α) (input : Bytes) : Except ReadError (List α × Bytes) :=
  match skipBlanks input with
  | [] => .error .truncated
  | c :: rest =>
    if c = openBracket then
      match readElements item (rest.length + 1) true [] rest with
      | .error e => .error e
      | .ok (xs, rest) => match endArray rest with
        | .error e => .error e
        | .ok rest => .ok (xs, rest)
    else .error (unexpected .sequence c rest)

def writeList {α : Type} (item : Codec α) (xs : List α) : String :=
  "[" ++ ",".intercalate (xs.map item.write) ++ "]"

def Codec.list {α : Type} (item : Codec α) : Codec (List α) := ⟨readList item, writeList item⟩

/-- Reads a whole document. -/
def Codec.decode {α : Type} (codec : Codec α) (input : Bytes) : Except ReadError α :=
  match codec.read input with
  | .error e => .error e
  | .ok (x, rest) => if (skipBlanks rest).isEmpty then .ok x else .error .malformed

def Codec.encode {α : Type} (codec : Codec α) (x : α) : Bytes := Text.bytes (codec.write x)

end Agenda.Json
