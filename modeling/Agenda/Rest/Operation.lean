import Agenda.Call
import Agenda.Rest.Error

/-! The operations that clients can ask for, and how each is carried out: at most one call to the
storage, then the answer. -/
namespace Agenda.Rest

inductive Operation
  | create (e : Event)
  | update (e : Event)
  | remove (id : String)
  | list (range : RangeQuery)
deriving DecidableEq

/-- An operation that waits for the storage. The events that it would store have valid dates. -/
inductive Pending
  | creating (e : Event) (valid : e.startDate ≤ e.endDate)
  | updating (e : Event) (valid : e.startDate ≤ e.endDate)
  | removing (id : String)
  | listing (span : TimeSpan)
deriving DecidableEq

/-- The answer to an operation that fails. -/
def refusal (e : OperationError) : Response × List Notice :=
  (e.serviceError.response, [.operationFailed])

namespace Pending

def call : Pending → Call
  | .creating e _ => .insert e
  | .updating e _ => .save e
  | .removing id => .delete id
  | .listing span => .findByStartDate span

/-- What the storage says decides the answer. -/
def settle : (p : Pending) → p.call.Answer → Response × List Notice
  | .creating e _, .ok () => (.json 201 (Event.replyCodec.write e), [])
  | .updating e _, .ok () => (.json 200 (Event.replyCodec.write e), [])
  | .removing id, .ok () => (.json 200 (deletionCodec.write id), [])
  | .listing _, .ok events => (.json 200 (Event.listingCodec.write events), [])
  | .creating .., .error e | .updating .., .error e | .removing _, .error e
  | .listing _, .error e => refusal (.storage e)

end Pending

/-- Where an operation stands. -/
inductive Exchange
  | calling (p : Pending)
  | answered (response : Response)
deriving DecidableEq

namespace Exchange

def refused (e : OperationError) : Exchange × List Notice :=
  let (response, notices) := refusal e
  (.answered response, notices)

/-- An operation whose data are wrong does not get as far as the storage. -/
def start : Operation → Exchange × List Notice
  | .create e =>
    if h : e.hasValidDates then (.calling (.creating e (Event.hasValidDates_iff.mp h)), [])
    else refused (.invalidDates e.startDate e.endDate)
  | .update e =>
    if h : e.hasValidDates then (.calling (.updating e (Event.hasValidDates_iff.mp h)), [])
    else refused (.invalidDates e.startDate e.endDate)
  | .remove id => (.calling (.removing id), [])
  | .list range => match TimeSpan.new range.start range.stop with
    | .error reversed => refused (.reversed reversed)
    | .ok span => (.calling (.listing span), [])

def move : Exchange → Move Exchange
  | .calling p => .ask p.call fun a =>
    let (response, notices) := p.settle a
    (.answered response, notices)
  | .answered _ => .halt

instance : Machine Exchange := ⟨move⟩

/-- Carries an operation through on a storage. -/
def complete {σ : Type} (answer : σ → (c : Call) → c.Answer × σ) (s : σ) :
    Exchange → Response × List Notice × σ
  | .answered response => (response, [], s)
  | .calling p =>
    let (a, s) := answer s p.call
    let (response, notices) := p.settle a
    (response, notices, s)

end Exchange
end Agenda.Rest
