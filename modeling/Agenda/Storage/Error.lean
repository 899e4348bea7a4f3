/-! How a call to the storage fails. Every backend reports the same kinds. -/
namespace Agenda

inductive StorageError
  | conflict (id : String)
  | notFound (id : String)
  | empty
  | backend (cause : String)
deriving DecidableEq

def StorageError.message : StorageError → String
  | .conflict id => s!"An entity with id: `{id}` already exists"
  | .notFound id => s!"The entity with id: `{id}` was not found"
  | .empty => "No entities matched the query"
  | .backend cause => s!"The storage backend failed: {cause}"

end Agenda
