import Agenda.Json.Numeral

/-! Passing over a JSON value that nobody asks for: only its grammar is checked, to any depth. -/
namespace Agenda.Json

/-- An array or object that has not ended. -/
inductive Frame
  | array
  | object
deriving DecidableEq

def Frame.closes (c : UInt8) : Frame → Bool
  | .array => c = closeBracket
  | .object => c = closeBrace

/-- What comes next: a value, the inside of an array or object just begun, or whatever follows a
value. -/
inductive Stage
  | value
  | opened
  | after
deriving DecidableEq

/-- Passes over `"key":` and the blanks in it. -/
def skipKey (input : Bytes) : Except ReadError Bytes :=
  match skipBlanks input with
  | [] => .error .truncated
  | c :: rest =>
    if c = quote then
      match skipStringFrom .plain rest with
      | .error e => .error e
      | .ok rest => match skipBlanks rest with
        | [] => .error .truncated
        | c :: rest => if c = colon then .ok rest else .error .malformed
    else .error .malformed

/-- The next element of the innermost array or object: its key, if it has one. -/
def skipToValue (input : Bytes) : Frame → Except ReadError Bytes
  | .array => .ok input
  | .object => skipKey input

/-- Passes over a value other than an array or object, from its first byte on. -/
def skipScalar (c : UInt8) (rest : Bytes) : Except ReadError Bytes :=
  if c = 0x6E then literal [0x75, 0x6C, 0x6C] rest
  else if c = 0x74 then literal [0x72, 0x75, 0x65] rest
  else if c = 0x66 then literal [0x61, 0x6C, 0x73, 0x65] rest
  else if c = quote then skipStringFrom .plain rest
  else if c = 0x2D ∨ (digit? c).isSome then skipNumeral (c :: rest)
  else .error .malformed

/-- Passes over the rest of a value inside the arrays and objects of `stack`, innermost first. Every
step takes a byte, so the length of the input is enough of `fuel`. -/
def skipFrom : Nat → List Frame → Stage → Bytes → Except ReadError Bytes
  | _, [], .after, input => .ok input
  | 0, _, _, _ => .error .truncated
  | fuel + 1, stack, stage, input =>
    match skipBlanks input with
    | [] => .error .truncated
    | c :: rest => match stage with
      | .value =>
        if c = openBracket then skipFrom fuel (.array :: stack) .opened rest
        else if c = openBrace then skipFrom fuel (.object :: stack) .opened rest
        else match skipScalar c rest with
          | .error e => .error e
          | .ok rest => skipFrom fuel stack .after rest
      | .opened => match stack with
        | [] => .error .malformed
        | frame :: outer =>
          if frame.closes c then skipFrom fuel outer .after rest
          else match frame with
            | .array => skipFrom fuel stack .value (c :: rest)
            | .object => match skipKey (c :: rest) with
              | .error e => .error e
              | .ok rest => skipFrom fuel stack .value rest
      | .after => match stack with
        | [] => .ok (c :: rest)
        | frame :: outer =>
          if frame.closes c then skipFrom fuel outer .after rest
          else if c = comma then match skipToValue rest frame with
            | .error e => .error e
            | .ok rest => skipFrom fuel stack .value rest
          else .error .malformed

/-- Passes over one value. -/
def skipValue (input : Bytes) : Except ReadError Bytes :=
  skipFrom (2 * input.length + 1) [] .value input

end Agenda.Json
