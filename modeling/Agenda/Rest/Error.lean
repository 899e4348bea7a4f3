import Agenda.Rest.Message
import Agenda.Storage.Error
import Agenda.TimeSpan

/-! Why an operation is refused, and the answer that says so. -/
namespace Agenda.Rest

/-- What the client learns of an operation that failed. -/
inductive ServiceError
  | internal
  | badClientData (reason : String)
  | notFound (reason : String)
deriving DecidableEq

namespace ServiceError

def message : ServiceError → String
  | .internal => "Internal server error"
  | .badClientData reason => s!"Invalid data provided: Error message: `{reason}`"
  | .notFound reason => s!"404 Not found. Error message: `{reason}`"

def status : ServiceError → Nat
  | .internal => 500
  | .badClientData _ => 400
  | .notFound _ => 404

/-- A duplicate id is the client's mistake and an empty query a missing resource. -/
def ofStorage : StorageError → ServiceError
  | .conflict id => .badClientData s!"An event with id: {id}, already exists."
  | .notFound id => .notFound s!"The event with id: {id}, was not found."
  | .empty => .notFound "No events were found in the given range."
  | .backend _ => .internal

def response (e : ServiceError) : Response := ⟨e.status, some "text/html; charset=utf-8", e.message⟩

end ServiceError

/-- Why an operation fails. -/
inductive OperationError
  | invalidDates (start stop : Timestamp)
  | reversed (span : ReversedSpan)
  | storage (e : StorageError)
deriving DecidableEq

def OperationError.serviceError : OperationError → ServiceError
  | .invalidDates start stop => .badClientData
      s!"The event start date: {start.seconds} can not be after its end date: {stop.seconds}."
  | .reversed span => .badClientData span.message
  | .storage e => .ofStorage e

end Agenda.Rest
