import Agenda.Rehearsal.Scheduler
import Agenda.Rest.Route
import Agenda.Sender

/-! Rehearsals of the service in virtual time. Time passes only while everybody waits, and who is
due first acts first. -/
namespace Agenda

open Rehearsal

/-- What is done from outside, one thing at a time. -/
inductive Rehearsal.Errand
  | none
  | dispatch (p : Performer Dispatch)
  | cleanup (p : Performer Cleanup)
  | exchange (p : Performer Rest.Exchange)

/-- Who acts. Several schedulers and senders may run at once, which have numbers in the order in
which they were started. -/
inductive Rehearsal.Actor
  | errand
  | dispatcher (scheduler : Nat)
  | cleaner (scheduler : Nat)
  | scheduler (n : Nat)
  | sender (n : Nat)
deriving DecidableEq

/-- A sender at its seat. -/
structure Rehearsal.Listener where
  performer : Performer Sender
  seat : Seat

structure Rehearsal where
  pace : Pace
  stage : Stage
  errand : Errand
  /-- The seat of those who run errands. -/
  outside : Seat
  schedulers : List Scheduler
  senders : List Listener
  /-- Whether a scheduler was started that nobody has waited for. -/
  schedulerAwaited : Bool
  /-- Whether a sender was started that nobody has waited for. -/
  senderAwaited : Bool

namespace Rehearsal

def Listener.due (x : Listener) (s : Stage) : Option Nat := x.performer.due ⟨x.seat, s⟩

def Listener.step (x : Listener) (s : Stage) : Listener × Stage :=
  let (performer, after) := x.performer.step none ⟨x.seat, s⟩
  (⟨performer, after.seat⟩, after.stage)

def new (pace : Pace) (now : Timestamp) (maxDeliver : Int) (faults : FaultPlan) (chance : Chance) :
    Rehearsal :=
  let stage : Stage :=
    { time := 0, base := now.seconds, service := .new maxDeliver, faults := faults
      token := 0, cancelled := [], chance := chance, entries := [] }
  { pace, stage, errand := .none, outside := stage.seat none, schedulers := [], senders := []
    schedulerAwaited := false, senderAwaited := false }

def outsideScene (r : Rehearsal) : Scene := ⟨r.outside, r.stage⟩

def due (r : Rehearsal) : Actor → Option Nat
  | .errand => match r.errand with
    | .none => none
    | .dispatch p => p.due r.outsideScene
    | .cleanup p => p.due r.outsideScene
    | .exchange p => p.due r.outsideScene
  | .dispatcher n => r.schedulers[n]?.bind (·.dispatcherDue r.stage)
  | .cleaner n => r.schedulers[n]?.bind (·.cleanerDue r.stage)
  | .scheduler n => r.schedulers[n]?.bind (·.due r.stage)
  | .sender n => r.senders[n]?.bind (·.due r.stage)

/-- Everybody. Of those who are due at the same time the first in this order acts. -/
def actors (r : Rehearsal) : List Actor :=
  .errand ::
    ((List.range r.schedulers.length).flatMap fun n => [.dispatcher n, .cleaner n, .scheduler n]) ++
    (List.range r.senders.length).map .sender

/-- Who is due first among some actors, and when. -/
def firstDue (r : Rehearsal) : List Actor → Option (Nat × Actor)
  | [] => none
  | a :: rest => match r.due a, firstDue r rest with
    | none, later => later
    | some t, none => some (t, a)
    | some t, some (t', b) => if t ≤ t' then some (t, a) else some (t', b)

/-- Lets a scheduler or one of its workers act. -/
def withScheduler (r : Rehearsal) (n : Nat) (f : Scheduler → Stage → Scheduler × Stage) :
    Rehearsal :=
  match r.schedulers[n]? with
  | none => r
  | some x =>
    let (x, stage) := f x r.stage
    { r with schedulers := r.schedulers.set n x, stage }

/-- Who runs an errand goes on with it. -/
def withErrand (r : Rehearsal) {σ : Type} (errand : σ → Errand) (next : σ × Scene) : Rehearsal :=
  { r with errand := errand next.1, outside := next.2.seat, stage := next.2.stage }

/-- An actor acts. -/
def act (r : Rehearsal) : Actor → Rehearsal
  | .errand => match r.errand with
    | .none => r
    | .dispatch p => r.withErrand .dispatch (p.step (some r.pace.operationTimeout) r.outsideScene)
    | .cleanup p => r.withErrand .cleanup (p.step (some r.pace.operationTimeout) r.outsideScene)
    | .exchange p => r.withErrand .exchange (p.step none r.outsideScene)
  | .dispatcher n => r.withScheduler n (Scheduler.stepDispatcher r.pace)
  | .cleaner n => r.withScheduler n (Scheduler.stepCleaner r.pace)
  | .scheduler n => r.withScheduler n (Scheduler.step r.pace)
  | .sender n => match r.senders[n]? with
    | none => r
    | some x =>
      let (x, stage) := x.step r.stage
      { r with senders := r.senders.set n x, stage }

/-- Time passes up to `t`. -/
def wait (r : Rehearsal) (t : Nat) : Rehearsal :=
  { r with stage := { r.stage with time := max r.stage.time t } }

/-- Lets actors act in turn until `isDone`, or until nobody is due by the deadline, with at most
`fuel` steps. -/
def play (isDone : Rehearsal → Bool) (deadline : Option Nat) : (fuel : Nat) → Rehearsal → Rehearsal
  | 0, r => r
  | fuel + 1, r =>
    if isDone r then r
    else match r.firstDue r.actors with
      | none => r
      | some (t, a) =>
        if deadline.any (· < t) then r else play isDone deadline fuel ((r.wait t).act a)

/-- More steps than a rehearsal takes. -/
def patience : Nat := 10000000

/-- Lets time pass. -/
def advance (r : Rehearsal) (milliseconds : Nat) : Rehearsal :=
  let stop := r.stage.time + milliseconds
  (r.play (fun _ => false) (some stop) patience).wait stop

def isErrandDone (r : Rehearsal) : Bool :=
  match r.errand with
  | .none => true
  | .dispatch p => p.isOver
  | .cleanup p => p.isOver
  | .exchange p => p.isOver

def run (r : Rehearsal) (errand : Errand) : Rehearsal :=
  { r with errand }.play isErrandDone none patience

/-- One dispatch cycle of a scheduler that is not running. -/
def dispatch (r : Rehearsal) : Rehearsal :=
  r.run (.dispatch (.start (Dispatch.start r.stage.clock r.pace.interval)))

/-- One cleanup cycle of a scheduler that is not running. -/
def cleanup (r : Rehearsal) : Rehearsal :=
  r.run (.cleanup (.start (Cleanup.start r.stage.clock r.pace.interval)))

def response? (r : Rehearsal) : Option Rest.Response :=
  match r.errand with
  | .exchange ⟨.answered response, _⟩ => some response
  | _ => none

/-- The request of a client. -/
def request (r : Rehearsal) (q : Rest.Request) : Option Rest.Response × Rehearsal :=
  let (exchange, notices) := Rest.Exchange.ofRequest q
  let r := { r with stage := r.stage.log notices }.run (.exchange (.start exchange))
  (r.response?, { r with errand := .none })

/-- Somebody else publishes a message. -/
def publish (r : Rehearsal) (payload : Bytes) : Rehearsal :=
  let service := r.stage.service
  { r with stage.service := { service with broker := service.broker.publish payload } }

/-- Starts a scheduler. One that runs already goes on beside it. -/
def startScheduler (r : Rehearsal) : Rehearsal :=
  { r with
    schedulers := r.schedulers ++ [.new (r.stage.seat none)]
    schedulerAwaited := true }

/-- Starts a sender. With a limit its stream ends after as many deliveries. One that runs already
goes on beside it. -/
def startSender (r : Rehearsal) (limit : Option Nat) : Rehearsal :=
  { r with
    senders := r.senders ++ [⟨.start .start, r.stage.seat limit⟩]
    senderAwaited := true
    stage := r.stage.log [.consumingInProcess] }

/-- The scheduler that is waited for: the last one. -/
def awaitedScheduler (r : Rehearsal) : Option Scheduler :=
  if r.schedulerAwaited then r.schedulers.getLast? else none

/-- The sender that is waited for: the last one. -/
def awaitedSender (r : Rehearsal) : Option (Performer Sender) :=
  if r.senderAwaited then r.senders.getLast?.map (·.performer) else none

def isStill (r : Rehearsal) : Bool :=
  r.awaitedScheduler.all (·.isOver) && r.awaitedSender.all (·.isOver)

/-- Stops those who have the present token and waits until those who are waited for have ended. -/
def cancel (r : Rehearsal) : Rehearsal :=
  { r with stage := r.stage.cancel }.play isStill none patience

/-- Waits for nobody any more. -/
def dismiss (r : Rehearsal) : Rehearsal :=
  { r with schedulerAwaited := false, senderAwaited := false }

/-- Those who are started later are not cancelled. -/
def renew (r : Rehearsal) : Rehearsal := { r with stage := r.stage.renew }

/-- What has shown so far, in order, and the rehearsal without it. -/
def takeEntries (r : Rehearsal) : List Entry × Rehearsal :=
  (r.stage.entries.reverse, { r with stage.entries := [] })

end Rehearsal
end Agenda
