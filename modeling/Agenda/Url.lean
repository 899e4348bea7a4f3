import Agenda.Text.Form
import Agenda.Url.Host

/-! Addresses of resources, taken apart. -/
namespace Agenda

/-- An address. User, password, path and query are kept as they are written, with percent signs. -/
structure Url where
  scheme : String
  user : List Char
  password : List Char
  host : Option (List Char)
  port : Option Nat
  path : List (List Char)
  query : List Char
deriving DecidableEq

namespace Url

/-- What a scheme says of the form of its addresses. -/
inductive Form
  /-- A machine is named. -/
  | machine
  | file
  | other
deriving DecidableEq

def Form.ofScheme (scheme : String) : Form :=
  if ["http", "https", "ws", "wss", "ftp"].contains scheme then .machine
  else if scheme = "file" then .file else .other

/-- What separates the parts of a path. -/
def Form.isSlash (f : Form) (c : Char) : Bool := c = '/' || (f ≠ .other && c = '\\')

def isSchemeChar (c : Char) : Bool := c.isAlphanum || c = '+' || c = '-' || c = '.'

/-- The scheme in front of the first colon, in lower case, and what follows the colon. -/
def scheme? (text : List Char) : Option (String × List Char) :=
  let name := text.takeWhile isSchemeChar
  match name, text.drop name.length with
  | c :: _, ':' :: rest =>
    if c.isAlpha then some (String.ofList (name.map Char.toLower), rest) else none
  | _, _ => none

/-- A segment with its points decoded. -/
def point (segment : List Char) : List Char :=
  match segment with
  | '%' :: '2' :: e :: rest =>
    if e = 'e' || e = 'E' then '.' :: point rest else segment
  | '.' :: rest => '.' :: point rest
  | other => other

/-- Walks along some segments, a single point standing for no step and two points for a step
back. -/
def walk (segments : List (List Char)) : List (List Char) :=
  segments.foldl (fun path s =>
    if point s = ['.'] then path
    else if point s = ['.', '.'] then path.dropLast
    else path ++ [s]) []

/-- The segments of a path behind its first slash. -/
def segments (f : Form) (path : List Char) : List (List Char) :=
  walk ((Text.split '/' (path.map fun c => if f.isSlash c then '/' else c)).dropWhile (·.isEmpty))

/-- What stands before the last at sign, if there is one, and what stands after it. -/
def credentials (authority : List Char) : Option (List Char) × List Char :=
  let back := (authority.reverse.takeWhile (· ≠ '@')).reverse
  if back.length = authority.length then (none, authority)
  else (some (authority.take (authority.length - back.length - 1)), back)

/-- The host up to the first colon that stands outside brackets, and what follows it. -/
def hostAndRest : (inBrackets : Bool) → List Char → List Char × List Char
  | _, [] => ([], [])
  | inBrackets, c :: rest =>
    if c = ':' && !inBrackets then ([], c :: rest)
    else
      let inBrackets := if c = '[' then true else if c = ']' then false else inBrackets
      let (host, rest) := hostAndRest inBrackets rest
      (c :: host, rest)

/-- The port behind a colon, which may be missing, and what follows a backslash after it. -/
def port? : List Char → Option (Option Nat × List Char)
  | ':' :: rest =>
    let digits := rest.takeWhile Char.isDigit
    let after := rest.drop digits.length
    let port := if digits.isEmpty then some none
      else match Decimal.appendDigits 65535 .tooLarge 0 digits with
        | .ok n => some (some n)
        | .error _ => none
    if after.isEmpty || after.head? = some '\\' then port.map (·, after) else none
  | _ => some (none, [])

/-- Reads what follows two slashes. `goesOn` tells whether a query or a fragment follows. -/
def withAuthority? (scheme : String) (f : Form) (text query : List Char) (goesOn : Bool) :
    Option Url :=
  let authority := text.takeWhile (!f.isSlash ·)
  let path := text.drop authority.length
  let (before, after) := credentials authority
  let user := (before.getD []).takeWhile (· ≠ ':')
  let password := ((before.getD []).dropWhile (· ≠ ':')).drop 1
  let (host, rest) := hostAndRest false after
  let url (host : Option (List Char)) : Option Url := (port? rest).map fun (port, after) =>
    ⟨scheme, user, password, host, port, segments f (after ++ path), query⟩
  if before = some [] && after.isEmpty && (goesOn || !path.isEmpty) then none
  else if host.isEmpty then
    if f = .machine || !rest.isEmpty || !user.isEmpty || !password.isEmpty then none else url none
  else if f = .machine then (machine? host).bind fun host => url (some host)
  else if isOpaqueHost host then url (some host) else none

/-- Whether a text is the letter of a drive. -/
def isDrive : List Char → Bool
  | [c, mark] => c.isAlpha && (mark = ':' || mark = '|')
  | _ => false

/-- Reads the address of a file behind its scheme. The machine itself need not be named. -/
def ofFile? (scheme : String) (text query : List Char) : Option Url :=
  let url (host : Option (List Char)) (path : List Char) : Url :=
    ⟨scheme, [], [], host, none, segments .file path, query⟩
  match text with
  | a :: b :: rest =>
    if Form.file.isSlash a && Form.file.isSlash b then
      let host := rest.takeWhile (!Form.file.isSlash ·)
      let path := rest.drop host.length
      if host.isEmpty || isDrive host then some (url none rest)
      else (machine? host).map fun name =>
        url (if name = "localhost".toList then none else some name) path
    else some (url none text)
  | _ => some (url none text)

/-- Reads an address. Blanks and control characters around it do not count, nor do tabs and line
ends in it. -/
def ofText? (text : String) : Option Url :=
  let text := (Text.trim (· ≤ ' ') text.toList).filter fun c => c ≠ '\t' && c ≠ '\n' && c ≠ '\r'
  (scheme? text).bind fun (scheme, rest) =>
    let body := rest.takeWhile (· ≠ '#')
    let front := body.takeWhile (· ≠ '?')
    let query := (body.drop front.length).drop 1
    let goesOn := front.length < rest.length
    let f := Form.ofScheme scheme
    match f, front with
    | .file, _ => ofFile? scheme front query
    | .machine, _ => withAuthority? scheme f (front.dropWhile f.isSlash) query goesOn
    | .other, '/' :: '/' :: text => withAuthority? scheme f text query goesOn
    | .other, '/' :: _ => some ⟨scheme, [], [], none, none, segments f front, query⟩
    | .other, _ => some ⟨scheme, [], [], none, none, [front], query⟩

end Url
end Agenda
