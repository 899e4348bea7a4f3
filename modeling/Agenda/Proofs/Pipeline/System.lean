import Agenda.Cleanup
import Agenda.Proofs.Conversation
import Agenda.Proofs.Service
import Agenda.Rest.Route
import Agenda.Sender

/-! Everybody who uses the service in memory at once: clients with their requests, dispatch and
cleanup cycles, senders. They take turns in any order, one call at a time, and any call may fail. -/
namespace Agenda

def Move.map {σ τ : Type} (f : σ → τ) : Move σ → Move τ
  | .halt => .halt
  | .ask call next => .ask call fun a => (f (next a).1, (next a).2)
  | .listen next => .listen fun signal => (f (next signal).1, (next signal).2)

/-- A part of the service, whichever it is. -/
inductive Actor
  | client (x : Rest.Exchange)
  | dispatch (x : Dispatch)
  | cleanup (x : Cleanup)
  | sender (x : Sender)

def Actor.move : Actor → Move Actor
  | .client x => (Machine.move x).map .client
  | .dispatch x => (Machine.move x).map .dispatch
  | .cleanup x => (Machine.move x).map .cleanup
  | .sender x => (Machine.move x).map .sender

instance : Machine Actor := ⟨Actor.move⟩

namespace Call

def isFiling : Call → Bool
  | .insert _ | .save _ => true
  | _ => false

end Call

/-- The actors with the numbers of their endpoints, which they may share. -/
structure System where
  service : LocalService
  endpoints : Nat → Endpoint
  actors : List (Actor × Nat)
  /-- The calls so far with what the callers were told, the latest first. -/
  log : List Answered

namespace System

/-- What somebody begins. -/
inductive Task
  | request (r : Rest.Request)
  | dispatch (now : Timestamp) (interval : Duration)
  | cleanup (now : Timestamp) (interval : Duration)
  | send

def Task.actor : Task → Actor
  | .request r => .client (Rest.Exchange.ofRequest r).1
  | .dispatch now interval => .dispatch (.start now interval)
  | .cleanup now interval => .cleanup (.start now interval)
  | .send => .sender .start

/-- What a listener may hear: what is in its stream, or that there will be no more. -/
inductive Cue
  | poll
  | ended
  | cancelled

inductive Act
  | start (task : Task) (endpoint : Nat)
  | call (actor : Nat)
  /-- A call fails. If it was merely too late, it is carried out all the same; only clients wait for
  what they file. -/
  | fail (actor : Nat) (storage : StorageError) (broker : BrokerError) (late : Bool)
  | hear (actor : Nat) (cue : Cue)
  | leave (endpoint : Nat)

def new (maxDeliver : Int) : System := ⟨.new maxDeliver, fun _ => .new, [], []⟩

def withEndpoint (x : System) (k : Nat) (endpoint : Endpoint) : System :=
  { x with endpoints := fun j => if j = k then endpoint else x.endpoints j }

/-- An actor makes its next call. -/
def ask (x : System) (k : Nat)
    (serve : LocalService → Endpoint → (c : Call) → c.Answer × Endpoint × LocalService) : System :=
  match x.actors[k]? with
  | none => x
  | some (actor, seat) => match Machine.move actor with
    | .ask c next =>
      let (a, endpoint, service) := serve x.service (x.endpoints seat) c
      { x.withEndpoint seat endpoint with
        service
        actors := x.actors.set k ((next a).1, seat)
        log := ⟨c, a⟩ :: x.log }
    | _ => x

def failing (storage : StorageError) (broker : BrokerError) (late : Bool) (s : LocalService)
    (endpoint : Endpoint) (c : Call) : c.Answer × Endpoint × LocalService :=
  let after := if late && !c.isFiling then (s.answer endpoint c).2 else (endpoint, s)
  (c.failed storage broker, after)

/-- What comes of a cue, `none` while the stream waits. -/
def heard (s : LocalService) (endpoint : Endpoint) : Cue → Option Signal × LocalService
  | .poll =>
    let (item, _, s) := s.poll endpoint
    (item.map .delivery, s)
  | .ended => (some .ended, s)
  | .cancelled => (some .cancelled, s)

/-- An actor that listens hears something. -/
def hear (x : System) (k : Nat) (cue : Cue) : System :=
  match x.actors[k]? with
  | none => x
  | some (actor, seat) => match Machine.move actor with
    | .listen next => match heard x.service (x.endpoints seat) cue with
      | (none, service) => { x with service }
      | (some signal, service) =>
        { x with service, actors := x.actors.set k ((next signal).1, seat) }
    | _ => x

def step (x : System) : Act → System
  | .start task seat => { x with actors := x.actors ++ [(task.actor, seat)] }
  | .call k => x.ask k LocalService.answer
  | .fail k storage broker late => x.ask k (failing storage broker late)
  | .hear k cue => x.hear k cue
  | .leave k =>
    let (endpoint, service) := x.service.dropStream (x.endpoints k)
    { x.withEndpoint k endpoint with service }

def run (x : System) (acts : List Act) : System := acts.foldl step x

end System
end Agenda
