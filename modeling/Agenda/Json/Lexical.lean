import Agenda.Json.Error
import Agenda.Text.Hex
import Agenda.Text.Utf8

/-! The smallest parts of a JSON text: blanks, literals and strings, read from the left. -/
namespace Agenda.Json

def quote : UInt8 := 0x22
def backslash : UInt8 := 0x5C
def comma : UInt8 := 0x2C
def colon : UInt8 := 0x3A
def openBracket : UInt8 := 0x5B
def closeBracket : UInt8 := 0x5D
def openBrace : UInt8 := 0x7B
def closeBrace : UInt8 := 0x7D

def isBlank (c : UInt8) : Bool := c = 0x20 || c = 0x09 || c = 0x0A || c = 0x0D

def skipBlanks (input : Bytes) : Bytes := input.dropWhile isBlank

theorem skipBlanks_cons {c : UInt8} (visible : isBlank c = false) (rest : Bytes) :
    skipBlanks (c :: rest) = c :: rest :=
  List.dropWhile_cons_of_neg (ne_true_of_eq_false visible)

def digit? (c : UInt8) : Option Nat :=
  if 0x30 ≤ c ∧ c ≤ 0x39 then some (c.toNat - 0x30) else none

/-- Reads exactly the bytes of a word. -/
def literal : Bytes → Bytes → Except ReadError Bytes
  | [], input => .ok input
  | _ :: _, [] => .error .truncated
  | w :: word, c :: input => if c = w then literal word input else .error .malformed

/-- The byte that a backslash and a letter other than u stand for. -/
def shortEscape? (c : UInt8) : Option UInt8 :=
  if c = quote ∨ c = backslash ∨ c = 0x2F then some c
  else if c = 0x62 then some 0x08
  else if c = 0x66 then some 0x0C
  else if c = 0x6E then some 0x0A
  else if c = 0x72 then some 0x0D
  else if c = 0x74 then some 0x09
  else none

def letterU : UInt8 := 0x75

/-- Where a reader stands inside a string. A character beyond 16 bits is escaped as a pair of
surrogates, of which `high` is the first. -/
inductive Place
  | plain
  | escaped
  | hex (left : Nat) (value : Nat) (high : Option Nat)
  | low (high : Nat)
  | lowEscaped (high : Nat)
deriving DecidableEq

/-- The end of four hexadecimal digits. -/
def unit (value : Nat) : Option Nat → Except ReadError (Bytes × Place)
  | none =>
    if 0xD800 ≤ value ∧ value ≤ 0xDBFF then .ok ([], .low value)
    else if 0xDC00 ≤ value ∧ value ≤ 0xDFFF then .error .malformed
    else .ok (String.utf8EncodeChar (Char.ofNat value), .plain)
  | some high =>
    if 0xDC00 ≤ value ∧ value ≤ 0xDFFF then
      .ok (String.utf8EncodeChar
        (Char.ofNat (0x10000 + (high - 0xD800) * 0x400 + (value - 0xDC00))), .plain)
    else .error .malformed

/-- The bytes that the next byte of a string adds to the text, and the place after it. -/
def Place.next (c : UInt8) : Place → Except ReadError (Bytes × Place)
  | .plain =>
    if c = backslash then .ok ([], .escaped)
    else if c < 0x20 then .error .malformed
    else .ok ([c], .plain)
  | .escaped =>
    if c = letterU then .ok ([], .hex 4 0 none)
    else match shortEscape? c with
      | some b => .ok ([b], .plain)
      | none => .error .malformed
  | .hex left value high => match Text.hexDigit? c with
    | none => .error .malformed
    | some d => if left ≤ 1 then unit (value * 16 + d) high
                else .ok ([], .hex (left - 1) (value * 16 + d) high)
  | .low high => if c = backslash then .ok ([], .lowEscaped high) else .error .malformed
  | .lowEscaped high => if c = letterU then .ok ([], .hex 4 0 (some high)) else .error .malformed

/-- How many bytes must follow, whatever they are, for reading to go on. -/
def Place.demand : Place → Nat
  | .hex left _ _ => left
  | _ => 1

def lacks (n : Nat) (input : Bytes) : Bool := (input.drop (n - 1)).isEmpty

/-- Reads the rest of a string, its closing quote included. The bytes read so far are kept in
reverse. -/
def stringFrom : Place → Bytes → Bytes → Except ReadError (Bytes × Bytes)
  | _, _, [] => .error .truncated
  | place, seen, c :: rest =>
    if place = .plain ∧ c = quote then .ok (seen.reverse, rest)
    else match place.next c with
      | .error e => .error e
      | .ok (more, after) =>
        if lacks after.demand rest then .error .truncated
        else stringFrom after (more.reverse ++ seen) rest

/-- Reads a string after its opening quote. -/
def readString (input : Bytes) : Except ReadError (String × Bytes) :=
  match stringFrom .plain [] input with
  | .error e => .error e
  | .ok (b, rest) => match Text.ofBytes? b with
    | none => .error .malformed
    | some s => .ok (s, rest)

/-- Where a reader stands inside a string whose text nobody asks for. -/
inductive SkipPlace
  | plain
  | escaped
  | hex (left : Nat)
deriving DecidableEq

/-- Passes over the rest of a string. Surrogates need no partner here, and bytes from 0x80 on are
not looked at. -/
def skipStringFrom : SkipPlace → Bytes → Except ReadError Bytes
  | _, [] => .error .truncated
  | .plain, c :: rest =>
    if c = quote then .ok rest
    else if c = backslash then skipStringFrom .escaped rest
    else if c < 0x20 then .error .malformed
    else skipStringFrom .plain rest
  | .escaped, c :: rest =>
    if c = letterU then (if lacks 4 rest then .error .truncated else skipStringFrom (.hex 4) rest)
    else if (shortEscape? c).isSome then skipStringFrom .plain rest
    else .error .malformed
  | .hex left, c :: rest =>
    if (Text.hexDigit? c).isNone then .error .malformed
    else if left ≤ 1 then skipStringFrom .plain rest
    else skipStringFrom (.hex (left - 1)) rest

end Agenda.Json
