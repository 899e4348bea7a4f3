import Agenda.Decimal.Integer
import Agenda.Text.Hex
import Agenda.Text.Split

/-! Numeric addresses of machines. -/
namespace Agenda.Ip

/-- A decimal number below 256 without needless zeros in front. -/
def isOctet (part : List Char) : Bool :=
  match part with
  | ['0'] => true
  | '0' :: _ | [] => false
  | ds => match Decimal.appendDigits 255 .tooLarge 0 ds with
    | .ok _ => true
    | .error _ => false

/-- Four numbers with points between them. -/
def isV4 (text : List Char) : Bool :=
  let parts := Text.split '.' text
  parts.length = 4 && parts.all isOctet

def isHexDigit (c : Char) : Bool := c.isAlphanum && (Text.hexDigit? (.ofNat c.toNat)).isSome

/-- One to four hexadecimal digits. -/
def isGroup (part : List Char) : Bool :=
  !part.isEmpty && part.length ≤ 4 && part.all isHexDigit

/-- The number of groups with colons between them. The last part may be an address of the shorter
kind, in place of two groups. -/
def groups? (shortEnd : Bool) : List (List Char) → Option Nat
  | [] => some 0
  | [part] => if isGroup part then some 1 else if shortEnd && isV4 part then some 2 else none
  | part :: rest => if isGroup part then (groups? shortEnd rest).map (· + 1) else none

/-- What stands on both sides of the first two colons in a row. -/
def divide? : List Char → Option (List Char × List Char)
  | ':' :: ':' :: rest => some ([], rest)
  | c :: rest => (divide? rest).map fun (a, b) => (c :: a, b)
  | [] => none

def groupsOf? (shortEnd : Bool) (text : List Char) : Option Nat :=
  if text.isEmpty then some 0 else groups? shortEnd (Text.split ':' text)

/-- Eight groups, of which one row may be left out for two colons. -/
def isV6 (text : List Char) : Bool :=
  match divide? text with
  | none => groupsOf? true text = some 8
  | some (front, back) => match groupsOf? false front, groupsOf? true back with
    | some a, some b => a + b ≤ 7
    | _, _ => false

/-- A number as addresses may have it: decimal, octal behind a zero, hexadecimal behind a zero and
an x, where the digits may be missing. -/
def number? (part : List Char) : Option Nat :=
  let value (base : Nat) (ds : List Char) (isDigit : Char → Bool) : Option Nat :=
    if ds.all isDigit then
      some (ds.foldl (fun n c => n * base + ((Text.hexDigit? (.ofNat c.toNat)).getD 0)) 0)
    else none
  match part with
  | [] => none
  | '0' :: 'x' :: ds | '0' :: 'X' :: ds => value 16 ds isHexDigit
  | '0' :: d :: ds => value 8 (d :: ds) fun c => '0' ≤ c && c ≤ '7'
  | ds => value 10 ds Char.isDigit

/-- The parts between points, a point at the end left out. -/
def parts (text : List Char) : List (List Char) :=
  let parts := Text.split '.' text
  if 1 < parts.length && parts.getLast? = some [] then parts.dropLast else parts

/-- Whether a text can only be meant as a numeric address, by its last part. -/
def endsInNumber (text : List Char) : Bool :=
  match (parts text).getLast? with
  | none => false
  | some last => (!last.isEmpty && last.all Char.isDigit) || (number? last).isSome

/-- Up to four numbers, the last of which stands for all that is left. -/
def isLooseV4 (text : List Char) : Bool :=
  let ps := parts text
  match ps.mapM number? with
  | none => false
  | some numbers =>
    ps.length ≤ 4 && numbers.dropLast.all (· ≤ 255) &&
      numbers.getLast?.any fun n => n < Nat.pow 256 (5 - ps.length)

end Agenda.Ip
