import Agenda.Cleanup
import Agenda.Ticker

/-! What the scheduler does besides its cycles: it starts one of each kind whenever an interval is
over, and it closes the connection when both workers have ended. -/
namespace Agenda

/-- A kind of cycle. -/
class Cycle (σ : Type) extends Machine σ where
  start : Timestamp → Duration → σ

instance : Cycle Dispatch := ⟨Dispatch.start⟩
instance : Cycle Cleanup := ⟨Cleanup.start⟩

/-- The end of a scheduler. -/
inductive Shutdown
  | closeConnection
  | finished
deriving DecidableEq

namespace Shutdown

def move : Shutdown → Move Shutdown
  | .closeConnection => .ask (.produce .closeConnection) fun
    | .ok () => (.finished, [.schedulerStopped])
    | .error e => (.finished, [.connectionNotClosed e, .schedulerStopped])
  | .finished => .halt

instance : Machine Shutdown := ⟨move⟩

end Shutdown
end Agenda
