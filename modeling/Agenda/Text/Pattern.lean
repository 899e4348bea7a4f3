import Agenda.Text.Alphanumeric
import Agenda.Text.Blank

/-! Patterns of text: which regular expressions are well-formed and can be searched for by a finite
automaton. Nothing is matched here. -/
namespace Agenda.Text.Pattern

/-- How a part of a pattern is read. -/
structure Mode where
  /-- Blanks do not count, nor does what follows a number sign on a line. -/
  verbose : Bool
  /-- Classes of characters and boundaries of words are those of Unicode. -/
  unicode : Bool
deriving DecidableEq

/-- How a pattern is read at first. -/
def Mode.standard : Mode := ⟨false, true⟩

/-- Drops blanks and comments. -/
def dropBlanks : (inComment : Bool) → List Char → List Char
  | _, [] => []
  | true, c :: rest => dropBlanks (c ≠ '\n') rest
  | false, c :: rest =>
    if isBlank c then dropBlanks false rest
    else if c = '#' then dropBlanks true rest else c :: rest

/-- Goes to what counts next. -/
def Mode.skip (m : Mode) (s : List Char) : List Char :=
  if m.verbose then dropBlanks false s else s

/-- What a character, an escape or a class stands for. -/
inductive Atom
  | char (c : Char)
  /-- Any of several characters. -/
  | set
  /-- A place between characters. -/
  | place
deriving DecidableEq

def hexValue? (c : Char) : Option Nat :=
  if '0' ≤ c ∧ c ≤ '9' then some (c.toNat - 48)
  else if 'a' ≤ c ∧ c ≤ 'f' then some (c.toNat - 87)
  else if 'A' ≤ c ∧ c ≤ 'F' then some (c.toNat - 55)
  else none

/-- The character that hexadecimal digits stand for. -/
def hexChar? (m : Mode) : (digits value : Nat) → List Char → Option (Atom × List Char)
  | 0, value, s =>
    if value.isValidChar && (m.unicode || value < 0x80) then some (.char (Char.ofNat value), s)
    else none
  | _ + 1, _, [] => none
  | digits + 1, value, c :: rest =>
    (hexValue? c).bind fun d => hexChar? m digits (16 * value + d) rest

/-- Letters that stand for a class of characters. -/
def isClassLetter (c : Char) : Bool := "dsw".toList.contains c

/-- The control character that a letter stands for. -/
def control? (c : Char) : Option Char :=
  [('a', '\x07'), ('t', '\t'), ('n', '\n'), ('v', '\x0b'), ('f', '\x0c'), ('r', '\r')].lookup c

/-- The one-letter names of categories. -/
def isCategory (c : Char) : Bool := "clmnpsz".toList.contains c.toLower

/-- Reads an escape behind its backslash. What depends on the words around cannot be told by an
automaton if the words are those of Unicode, and without Unicode a class must not leave ASCII. -/
def escape? (m : Mode) : List Char → Option (Atom × List Char)
  | [] => none
  | c :: rest =>
    if c = 'x' then hexChar? m 2 0 rest
    else if c = 'u' then hexChar? m 4 0 rest
    else if c = 'U' then hexChar? m 8 0 rest
    else if c = 'p' || c = 'P' then match rest with
      | category :: rest => if m.unicode && isCategory category then some (.set, rest) else none
      | [] => none
    else if isClassLetter c then some (.set, rest)
    else if isClassLetter c.toLower then if m.unicode then some (.set, rest) else none
    else if c = 'A' || c = 'z' then some (.place, rest)
    else if "bB<>".toList.contains c then if m.unicode then none else some (.place, rest)
    else match control? c with
      | some control => some (.char control, rest)
      | none => if c.isAlphanum || 0x80 ≤ c.toNat then none else some (.char c, rest)

/-- Reads one member of a bracketed class. -/
def member? (m : Mode) : List Char → Option (Atom × List Char)
  | [] => none
  | '\\' :: rest => match escape? m rest with
    | some (.place, _) | none => none
    | some found => some found
  | c :: rest => if m.unicode || c.toNat < 0x80 then some (.char c, rest) else none

/-- What follows the opening bracket of a class: a caret, hyphens, a closing bracket that stands for
itself as it is the first member. -/
def openClass? (m : Mode) (s : List Char) : Option (List Char) :=
  let s := m.skip s
  let negated := s.head? = some '^'
  let s := if negated then m.skip (s.drop 1) else s
  let members := s.dropWhile (· = '-')
  if negated && !m.unicode then none
  else if s.head? = some ']' then some (s.drop 1) else some members

def namedClasses : List String :=
  ["alnum", "alpha", "ascii", "blank", "cntrl", "digit", "graph", "lower", "print", "punct",
    "space", "upper", "word", "xdigit"]

/-- What follows a class that is given by its name, such as `:alpha:`, behind its opening
bracket. -/
def namedClass? : List Char → Option (List Char)
  | ':' :: rest =>
    let rest := if rest.head? = some '^' then rest.drop 1 else rest
    let name := rest.takeWhile (· ≠ ':')
    if namedClasses.contains (String.ofList name) then
      match rest.drop name.length with
      | ':' :: ']' :: rest => some rest
      | _ => none
    else none
  | _ => none

/-- Reads one member of a class, or two that are the ends of a range. A hyphen before a closing
bracket or before another hyphen is not part of a range. -/
def range? (m : Mode) (s : List Char) : Option (List Char) :=
  (member? m s).bind fun (first, rest) =>
    match m.skip rest with
    | '-' :: rest =>
      let next := m.skip rest
      if next.head? = some ']' || next.head? = some '-' then some ('-' :: rest)
      else match first, member? m next with
        | .char low, some (.char high, rest) => if low ≤ high then some rest else none
        | _, _ => none
    | rest => some rest

/-- Reads a class to its end, behind its opening bracket and what belongs to that. `outer` is the
number of classes around it. -/
def class? (m : Mode) : (fuel outer : Nat) → List Char → Option (List Char)
  | 0, _, _ => none
  | fuel + 1, outer, s => match m.skip s with
    | [] => none
    | '[' :: rest => match namedClass? rest with
      | some rest => class? m fuel outer rest
      | none => (openClass? m rest).bind (class? m fuel (outer + 1))
    | ']' :: rest => if outer = 0 then some rest else class? m fuel (outer - 1) rest
    | '&' :: '&' :: rest | '-' :: '-' :: rest | '~' :: '~' :: rest => class? m fuel outer rest
    | s => (range? m s).bind (class? m fuel outer)

/-- What stands behind the opening parenthesis of a group. -/
inductive Opening
  | group (name : Option (List Char)) (m : Mode)
  /-- Flags for the rest of the group around. -/
  | flags (m : Mode)

/-- The name of a group, before an angle bracket. -/
def groupName? (s : List Char) : Option (List Char × List Char) :=
  let name := s.takeWhile (· ≠ '>')
  let isLater (c : Char) : Bool := isAlphanumeric c || "_.[]".toList.contains c
  match name, s.drop name.length with
  | c :: later, _ :: rest =>
    if (c = '_' || isAlphanumeric c && !c.isDigit) && later.all isLater then some (name, rest)
    else none
  | _, _ => none

/-- Reads flags up to a colon or a closing parenthesis. What follows a hyphen is switched off. A
flag stands there once, and so does the hyphen, behind which there has to be one. -/
def flags? (m : Mode) (off : Bool) (seen : List Char) : List Char → Option (Opening × List Char)
  | [] => none
  | c :: rest =>
    if c = ':' || c = ')' then
      if seen.head? = some '-' || (c = ')' && seen.isEmpty) then none
      else some (if c = ':' then .group none m else .flags m, rest)
    else if seen.contains c || !"imsUuRx-".toList.contains c then none
    else
      let m := if c = 'x' then { m with verbose := !off }
        else if c = 'u' then { m with unicode := !off } else m
      flags? m (off || c = '-') (c :: seen) rest

def opening? (m : Mode) : List Char → Option (Opening × List Char)
  | '?' :: 'P' :: '<' :: rest | '?' :: '<' :: rest =>
    (groupName? rest).map fun (name, rest) => (.group (some name) m, rest)
  | '?' :: rest => flags? m false [] rest
  | rest => some (.group none m, rest)

/-- What is known inside a pattern. -/
structure State where
  mode : Mode
  /-- How the groups around are read, the innermost first. -/
  outer : List Mode
  /-- The names that groups have been given. -/
  names : List (List Char)
  /-- Whether there is something that can be repeated. -/
  repeatable : Bool

/-- Whether a pattern ends well. Counted repetitions, which need braces, are not read. -/
def isWellFormedFrom : (fuel : Nat) → State → List Char → Bool
  | 0, _, _ => false
  | fuel + 1, p, s =>
    let read (rest : List Char) := isWellFormedFrom fuel { p with repeatable := true } rest
    match p.mode.skip s with
    | [] => p.outer.isEmpty
    | '(' :: rest => match opening? p.mode (p.mode.skip rest) with
      | none => false
      | some (.flags mode, rest) => isWellFormedFrom fuel { p with mode, repeatable := false } rest
      | some (.group name mode, rest) =>
        !name.any p.names.contains &&
          isWellFormedFrom fuel ⟨mode, p.mode :: p.outer, name.toList ++ p.names, false⟩ rest
    | ')' :: rest => match p.outer with
      | [] => false
      | mode :: outer => isWellFormedFrom fuel ⟨mode, outer, p.names, true⟩ rest
    | '|' :: rest => isWellFormedFrom fuel { p with repeatable := false } rest
    | '*' :: rest | '+' :: rest | '?' :: rest => p.repeatable && read rest
    | '[' :: rest =>
      ((openClass? p.mode rest).bind (class? p.mode s.length 0)).any read
    | '\\' :: rest => (escape? p.mode rest).any fun (_, rest) => read rest
    | '.' :: rest => p.mode.unicode && read rest
    | '\x7b' :: _ => false
    | _ :: rest => read rest

/-- Whether a text is a pattern. Each step of the reader takes at least one character. -/
def isWellFormed (text : String) : Bool :=
  isWellFormedFrom (text.length + 1) ⟨.standard, [], [], false⟩ text.toList

end Agenda.Text.Pattern
