import Agenda.Text.Utf8

/-! The requests of clients and the answers to them. -/
namespace Agenda.Rest

structure Request where
  method : String
  /-- Path and query, and whatever follows them. -/
  target : String
  contentType : Option String
  body : Bytes
deriving DecidableEq

structure Response where
  status : Nat
  contentType : Option String
  body : String
deriving DecidableEq

namespace Response

def json (status : Nat) (body : String) : Response := ⟨status, some "application/json", body⟩

/-- A request that could not be read. -/
def unreadable (body : String) : Response := ⟨400, some "text/plain; charset=utf-8", body⟩

/-- Nobody answers to this method and path. -/
def noRoute : Response := ⟨404, none, ""⟩

end Response
end Agenda.Rest
