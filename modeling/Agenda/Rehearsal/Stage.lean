import Agenda.LocalService
import Agenda.Rehearsal.Fault

/-! What the performers of a rehearsal share, and what each has of its own. -/
namespace Agenda.Rehearsal

/-- Something that shows from outside. -/
inductive Incident
  | call (c : Call)
  | notice (n : Notice)
deriving DecidableEq

structure Entry where
  /-- In milliseconds from the beginning. -/
  time : Nat
  incident : Incident
deriving DecidableEq

/-- What somebody who is cancelled does first when there is something else to do as well. It is left
to chance, and each time anew. -/
structure Chance where
  /-- Whether a worker hears a tick that is due before it hears the cancellation. -/
  tick : Bool
  /-- Whether a listener hears what is there already before it hears the cancellation. -/
  delivery : Bool
deriving DecidableEq

structure Stage where
  /-- In milliseconds from the beginning. -/
  time : Nat
  /-- What the clock read in the beginning, in seconds. -/
  base : Int
  service : LocalService
  faults : FaultPlan
  /-- The token that those who are started now are given. -/
  token : Nat
  /-- The tokens that were cancelled: who has one of them is to stop. -/
  cancelled : List Nat
  chance : Chance
  /-- What has shown, the last first. -/
  entries : List Entry

namespace Stage

/-- The clock goes on by whole seconds. -/
def clock (s : Stage) : Timestamp := .clamp (s.base + s.time / 1000)

def setClock (s : Stage) (t : Timestamp) : Stage := { s with base := t.seconds - s.time / 1000 }

def note (s : Stage) (i : Incident) : Stage := { s with entries := ⟨s.time, i⟩ :: s.entries }

def log (s : Stage) (notices : List Notice) : Stage :=
  notices.foldl (fun s n => s.note (.notice n)) s

/-- Cancels those who have the present token. -/
def cancel (s : Stage) : Stage := { s with cancelled := s.token :: s.cancelled }

/-- Those who are started later have a token of their own. -/
def renew (s : Stage) : Stage := { s with token := s.token + 1 }

end Stage

/-- What a performer has of its own. -/
structure Seat where
  endpoint : Endpoint
  token : Nat
  /-- How many deliveries its stream has left before it ends. -/
  deliveriesLeft : Option Nat
deriving DecidableEq

/-- A seat for somebody who is started now. -/
def Stage.seat (s : Stage) (deliveries : Option Nat) : Seat := ⟨.new, s.token, deliveries⟩

/-- The stage from a seat. -/
structure Scene where
  seat : Seat
  stage : Stage

namespace Scene

def time (s : Scene) : Nat := s.stage.time

def note (s : Scene) (i : Incident) : Scene := { s with stage := s.stage.note i }

def log (s : Scene) (notices : List Notice) : Scene := { s with stage := s.stage.log notices }

def isCancelled (s : Scene) : Bool := s.stage.cancelled.contains s.seat.token

/-- Whether a listener has nothing to hear. -/
def isQuiet (s : Scene) : Bool := s.stage.service.isQuiet s.seat.endpoint

def withService (s : Scene) (x : Endpoint) (service : LocalService) : Scene where
  seat := { s.seat with endpoint := x }
  stage := { s.stage with service }

/-- Carries a call out. -/
def answer (s : Scene) (c : Call) : c.Answer × Scene :=
  let (a, x, service) := s.stage.service.answer s.seat.endpoint c
  (a, s.withService x service)

/-- The listener gives its stream up. -/
def leave (s : Scene) : Scene :=
  let (x, service) := s.stage.service.dropStream s.seat.endpoint
  s.withService x service

/-- What a listener hears now, if anything. Of the cancellation and what is there already it hears
one, and chance decides which. -/
def hear (s : Scene) : Option Signal × Scene :=
  if s.isCancelled && !s.stage.chance.delivery then (some .cancelled, s.leave)
  else if s.seat.deliveriesLeft = some 0 then (some .ended, s.leave)
  else
    let (item, notices, service) := s.stage.service.poll s.seat.endpoint
    let s := (s.withService s.seat.endpoint service).log notices
    match item with
    | none => if s.isCancelled then (some .cancelled, s.leave) else (none, s)
    | some item =>
      (some (.delivery item),
        { s with seat.deliveriesLeft := s.seat.deliveriesLeft.map (· - 1) })

end Scene
end Agenda.Rehearsal
