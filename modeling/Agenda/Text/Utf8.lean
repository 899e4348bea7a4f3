/-! Bytes and the text they stand for. -/
namespace Agenda

abbrev Bytes := List UInt8

namespace Text

/-- The bytes of a text. -/
def bytes (s : String) : Bytes := s.toByteArray.data.toList

/-- The text that some bytes are, if they are well-formed. -/
def ofBytes? (b : Bytes) : Option String := String.fromUTF8? ⟨b.toArray⟩

/-- The ranges that the bytes after `first` must lie in for a well-formed character, `none` if no
character begins with `first`. -/
def continuation (first : UInt8) : Option (List (UInt8 × UInt8)) :=
  if first < 0x80 then some []
  else if first < 0xC2 then none
  else if first < 0xE0 then some [(0x80, 0xBF)]
  else if first = 0xE0 then some [(0xA0, 0xBF), (0x80, 0xBF)]
  else if first = 0xED then some [(0x80, 0x9F), (0x80, 0xBF)]
  else if first < 0xF0 then some [(0x80, 0xBF), (0x80, 0xBF)]
  else if first = 0xF0 then some [(0x90, 0xBF), (0x80, 0xBF), (0x80, 0xBF)]
  else if first < 0xF4 then some [(0x80, 0xBF), (0x80, 0xBF), (0x80, 0xBF)]
  else if first = 0xF4 then some [(0x80, 0x8F), (0x80, 0xBF), (0x80, 0xBF)]
  else none

/-- The character with these bytes. The lead byte of `n` continuation bytes carries `6 - n` bits,
or seven if there are none. -/
def assemble (first : UInt8) (rest : List UInt8) : Char :=
  let lead := if rest.isEmpty then first.toNat else first.toNat % Nat.pow 2 (6 - rest.length)
  Char.ofNat (rest.foldl (fun n b => n * 64 + b.toNat % 64) lead)

/-- What is read of a text when every ill-formed piece gives one replacement character: a piece
is the longest start of a character that is there. `open'` holds the character in progress, its
bytes in reverse, and what its next bytes must be. -/
def lossyChars : Option (UInt8 × List UInt8 × List (UInt8 × UInt8)) → Bytes → List Char
  | none, [] => []
  | some _, [] => ['\uFFFD']
  | none, b :: rest => match continuation b with
    | none => '\uFFFD' :: lossyChars none rest
    | some [] => assemble b [] :: lossyChars none rest
    | some ranges => lossyChars (some (b, [], ranges)) rest
  | some (first, seen, ranges), b :: rest => match ranges with
    | (lo, hi) :: more =>
      if lo ≤ b ∧ b ≤ hi then
        if more.isEmpty then assemble first (b :: seen).reverse :: lossyChars none rest
        else lossyChars (some (first, b :: seen, more)) rest
      else match continuation b with
        | none => '\uFFFD' :: '\uFFFD' :: lossyChars none rest
        | some [] => '\uFFFD' :: assemble b [] :: lossyChars none rest
        | some next => '\uFFFD' :: lossyChars (some (b, [], next)) rest
    | [] => '\uFFFD' :: lossyChars none rest

/-- The text of some bytes, a replacement character standing for each ill-formed piece. -/
def ofBytesLossy (b : Bytes) : String := String.ofList (lossyChars none b)

end Text
end Agenda
