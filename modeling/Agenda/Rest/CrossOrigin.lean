import Agenda.Rest.Message

/-! Answers to pages of other origins. Every origin, method and header is allowed. -/
namespace Agenda.Rest.CrossOrigin

def methods : List String :=
  ["CONNECT", "DELETE", "GET", "HEAD", "OPTIONS", "PATCH", "POST", "PUT", "TRACE"]

/-- The headers that every answer has. The origin is named only to those who send theirs. -/
def headers (origin : Option String) : List (String × String) :=
  ("access-control-allow-credentials", "true") ::
    origin.toList.map (("access-control-allow-origin", ·))

/-- Whether a request only asks what it would be allowed. -/
def isPreflight (method : String) (origin requestedMethod : Option String) : Bool :=
  method = "OPTIONS" && origin.isSome && requestedMethod.isSome

/-- The headers of the answer to a request that only asks. The headers that it asks for are named
again. -/
def preflight (origin : Option String) (requestedHeaders : List String) : List (String × String) :=
  headers origin ++ [("access-control-allow-methods", ", ".intercalate methods)] ++
    (if requestedHeaders.isEmpty then []
      else [("access-control-allow-headers", ", ".intercalate requestedHeaders)]) ++
    [("access-control-max-age", "3600")]

end Agenda.Rest.CrossOrigin
