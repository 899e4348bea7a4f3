import Agenda.Rehearsal.Performer
import Agenda.Worker

/-! The scheduler in a rehearsal: two workers that tick on their own, and what follows when both
have ended. -/
namespace Agenda.Rehearsal

/-- The settings of a scheduler. -/
structure Pace where
  interval : Duration
  operationTimeout : Duration
  /-- How many seconds the machine was on before the rehearsal. -/
  uptime : Nat
deriving DecidableEq

inductive Worker (σ : Type)
  | fresh
  | waiting (t : Ticker)
  | cycling (t : Ticker) (p : Performer σ)
  | ended
  | failed

/-- Whether a worker that waits for a tick stops instead. If the tick is due, chance may decide for
one more cycle. -/
def Scene.stopsBefore (s : Scene) (t : Ticker) : Bool :=
  s.isCancelled && !(s.stage.chance.tick && decide (t.due ≤ s.time))

namespace Worker

variable {σ : Type} [Cycle σ]

/-- When the next step is due, if it ever is. -/
def due (w : Worker σ) (s : Scene) : Option Nat :=
  match w with
  | .fresh => some s.time
  | .waiting t => some (if s.isCancelled then s.time else max t.due s.time)
  | .cycling _ p => p.due s
  | .ended | .failed => none

/-- One step. A worker ends between two cycles, and it fails with a cycle that breaks off or with a
ticker that cannot be set up or set anew. -/
def step (pace : Pace) (w : Worker σ) (s : Scene) : Worker σ × Scene :=
  match w with
  | .fresh => match Ticker.start? pace.uptime s.time pace.interval with
    | none => (.failed, s)
    | some t => (.waiting t, s)
  | .waiting t =>
    if s.stopsBefore t then (.ended, s)
    else if t.isLast pace.uptime s.time then (.failed, s)
    else (.cycling (t.heard s.time) (.start (Cycle.start s.stage.clock pace.interval)), s)
  | .cycling t p =>
    let (p, s) := p.step (some pace.operationTimeout) s
    match p.phase with
    | .halted => (.waiting t, s)
    | .crashed => (.failed, s)
    | _ => (.cycling t p, s)
  | .ended | .failed => (w, s)

def isOver : Worker σ → Bool
  | .ended | .failed => true
  | _ => false

def notices (w : Worker σ) (failed : Notice) : List Notice :=
  match w with
  | .failed => [failed]
  | _ => []

end Worker

/-- Where the scheduler itself stands. -/
inductive Supervision
  | fresh
  | watching
  | closing (p : Performer Shutdown)
  | stopped
  | crashed

structure Scheduler where
  supervision : Supervision
  dispatcher : Worker Dispatch
  cleaner : Worker Cleanup
  /-- The seat of the scheduler, which it shares with its workers. -/
  seat : Seat

namespace Scheduler

def new (seat : Seat) : Scheduler := ⟨.fresh, .fresh, .fresh, seat⟩

def isFresh (x : Scheduler) : Bool :=
  match x.supervision with
  | .fresh => true
  | _ => false

def scene (x : Scheduler) (s : Stage) : Scene := ⟨x.seat, s⟩

/-- When the scheduler itself has something to do. -/
def due (x : Scheduler) (s : Stage) : Option Nat :=
  match x.supervision with
  | .fresh => some s.time
  | .watching => if x.dispatcher.isOver && x.cleaner.isOver then some s.time else none
  | .closing p => p.due (x.scene s)
  | .stopped | .crashed => none

def dispatcherDue (x : Scheduler) (s : Stage) : Option Nat :=
  if x.isFresh then none else x.dispatcher.due (x.scene s)

def cleanerDue (x : Scheduler) (s : Stage) : Option Nat :=
  if x.isFresh then none else x.cleaner.due (x.scene s)

def stepDispatcher (pace : Pace) (x : Scheduler) (s : Stage) : Scheduler × Stage :=
  let (dispatcher, after) := x.dispatcher.step pace (x.scene s)
  ({ x with dispatcher, seat := after.seat }, after.stage)

def stepCleaner (pace : Pace) (x : Scheduler) (s : Stage) : Scheduler × Stage :=
  let (cleaner, after) := x.cleaner.step pace (x.scene s)
  ({ x with cleaner, seat := after.seat }, after.stage)

/-- One step of the scheduler itself. Nothing bounds how long the connection takes to close. -/
def step (pace : Pace) (x : Scheduler) (s : Stage) : Scheduler × Stage :=
  match x.supervision with
  | .fresh => ({ x with supervision := .watching }, s.log [.schedulerStarted pace.interval])
  | .watching =>
    ({ x with supervision := .closing (.start .closeConnection) },
      s.log (x.dispatcher.notices .dispatchWorkerFailed ++ x.cleaner.notices .cleanupWorkerFailed))
  | .closing p =>
    let (p, after) := p.step none (x.scene s)
    let supervision := match p.phase with
      | .halted => .stopped
      | .crashed => .crashed
      | _ => .closing p
    ({ x with supervision, seat := after.seat }, after.stage)
  | .stopped | .crashed => (x, s)

def isOver (x : Scheduler) : Bool :=
  match x.supervision with
  | .stopped | .crashed => true
  | _ => false

end Scheduler
end Agenda.Rehearsal
