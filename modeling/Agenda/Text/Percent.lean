import Agenda.Text.Hex
import Agenda.Text.Utf8

/-! Bytes written as a percent sign and two hexadecimal digits. -/
namespace Agenda.Text

def percent : UInt8 := 0x25

/-- The byte that the two digits at the front stand for. -/
def digitPair? : Bytes → Option UInt8
  | a :: b :: _ => match hexDigit? a, hexDigit? b with
    | some x, some y => some (.ofNat (16 * x + y))
    | _, _ => none
  | _ => none

/-- Decodes what follows `skip` bytes that have been decoded already. -/
def percentDecodeAfter (kept : UInt8 → Bool) : (skip : Nat) → Bytes → Bytes
  | _, [] => []
  | skip + 1, _ :: rest => percentDecodeAfter kept skip rest
  | 0, c :: rest => match if c = percent then digitPair? rest else none with
    | none => c :: percentDecodeAfter kept 0 rest
    | some value =>
      if kept value then c :: percentDecodeAfter kept 0 rest
      else value :: percentDecodeAfter kept 2 rest

/-- Decodes the bytes that need not be kept as they are written. A percent sign without two digits
after it stands for itself. -/
def percentDecode (kept : UInt8 → Bool) (b : Bytes) : Bytes := percentDecodeAfter kept 0 b

/-- Letters, digits and four marks, which never need encoding. -/
def isUnreserved (c : UInt8) : Bool :=
  (0x41 ≤ c && c ≤ 0x5A) || (0x61 ≤ c && c ≤ 0x7A) || (0x30 ≤ c && c ≤ 0x39) ||
    c = 0x2D || c = 0x2E || c = 0x5F || c = 0x7E

def percentEncode (b : Bytes) : Bytes :=
  b.flatMap fun c =>
    if isUnreserved c then [c]
    else [percent, upperHexDigit (c.toNat / 16), upperHexDigit (c.toNat % 16)]

end Agenda.Text
