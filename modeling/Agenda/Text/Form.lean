import Agenda.Text.Percent
import Agenda.Text.Split

/-! Names and values in the query of an address, written as forms write them. -/
namespace Agenda.Text.Form

def ampersand : UInt8 := 0x26
def equals : UInt8 := 0x3D
def plus : UInt8 := 0x2B

/-- A plus sign stands for a space. -/
def decode (b : Bytes) : String :=
  ofBytesLossy (percentDecode (fun _ => false) (b.map fun c => if c = plus then 0x20 else c))

def pair (part : Bytes) : String × String :=
  (decode (part.takeWhile (· ≠ equals)), decode ((part.dropWhile (· ≠ equals)).drop 1))

def pairs (query : Bytes) : List (String × String) :=
  ((split ampersand query).filter (!·.isEmpty)).map pair

end Agenda.Text.Form
