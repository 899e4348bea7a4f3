import Agenda.Text.Percent
import Agenda.Url.Ip

/-! The host in an address. -/
namespace Agenda.Url

/-- Characters that no host holds. -/
def isHostBreaker (c : Char) : Bool := "\x00\t\n\r #/:<>?@[\\]^|".toList.contains c

/-- Characters that the name of a machine does not hold. -/
def isNameBreaker (c : Char) : Bool :=
  isHostBreaker c || c = '%' || c < ' ' || c = '\x7f'

/-- What stands in brackets, if anything does. -/
def bracketed? : List Char → Option (Option (List Char))
  | '[' :: rest => if rest.getLast? = some ']' then some (some rest.dropLast) else none
  | _ => some none

/-- Whether a text is a host where the scheme does not tell what hosts are. -/
def isOpaqueHost (text : List Char) : Bool :=
  match bracketed? text with
  | none => false
  | some (some inner) => Ip.isV6 inner
  | some none => !text.any isHostBreaker

/-- The name or numeric address of a machine, without percent signs. -/
def machine? (text : List Char) : Option (List Char) :=
  match bracketed? text with
  | none => none
  | some (some inner) => if Ip.isV6 inner then some text else none
  | some none =>
    let decoded := Text.percentDecode (fun _ => false) (Text.bytes (String.ofList text))
    (Text.ofBytes? decoded).bind fun name =>
      let name := name.toList.map Char.toLower
      if name.isEmpty || name.any isNameBreaker then none
      else if Ip.endsInNumber name && !Ip.isLooseV4 name then none
      else some name

end Agenda.Url
