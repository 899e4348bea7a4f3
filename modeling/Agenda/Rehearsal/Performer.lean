import Agenda.Rehearsal.Stage

/-! A part of the service as it acts in a rehearsal: how the faults that are planned for its calls
delay it or break it off. -/
namespace Agenda.Rehearsal

inductive Phase
  /-- It goes on at once. -/
  | acting
  /-- Its call ends at `due`, by being carried out or by being cut off. -/
  | delayed (due : Nat) (cut : Bool)
  /-- It listens, and there is nothing to hear. -/
  | asleep
  /-- Its call never ends. -/
  | stuck
  | crashed
  | halted
deriving DecidableEq

structure Performer (σ : Type) where
  state : σ
  phase : Phase

namespace Performer

variable {σ : Type} [Machine σ]

def start (state : σ) : Performer σ := ⟨state, .acting⟩

/-- Goes on after a call or a signal. -/
def proceed (next : σ × List Notice) (s : Scene) : Performer σ × Scene :=
  (start next.1, s.log next.2)

/-- A call that waits takes as long as it has to, or as long as it may. -/
def delay (limit : Option Duration) (now milliseconds : Nat) : Phase :=
  match limit with
  | none => .delayed (now + milliseconds) false
  | some l =>
    if milliseconds ≤ l.milliseconds then .delayed (now + milliseconds) false
    else .delayed (now + l.milliseconds) true

/-- A call that never answers. -/
def hang (limit : Option Duration) (now : Nat) : Phase :=
  match limit with
  | none => .stuck
  | some l => .delayed (now + l.milliseconds) true

/-- Begins a call. -/
def attempt (limit : Option Duration) (p : Performer σ) (c : Call)
    (next : c.Answer → σ × List Notice) (s : Scene) : Performer σ × Scene :=
  let s := s.note (.call c)
  let carryOut : Performer σ × Scene :=
    let (a, s) := s.answer c
    proceed (next a) s
  match s.stage.faults.find? c with
  | none => carryOut
  | some .hang => ({ p with phase := hang limit s.time }, s)
  | some (.slow milliseconds) => ({ p with phase := delay limit s.time milliseconds }, s)
  | some .crash => ({ p with phase := .crashed }, s)
  | some (.failing f) => match f.answer? c with
    | none => carryOut
    | some a => proceed (next a) s

/-- One step. `limit` is how long a call may take. -/
def step (limit : Option Duration) (p : Performer σ) (s : Scene) : Performer σ × Scene :=
  match Machine.move p.state with
  | .halt => ({ p with phase := .halted }, s)
  | .ask c next => match p.phase with
    | .acting => p.attempt limit c next s
    | .delayed _ cut => match cut, limit with
      | true, some l => proceed (next (c.timedOut l)) s
      | _, _ =>
        let (a, s) := s.answer c
        proceed (next a) s
    | _ => (p, s)
  | .listen next =>
    let (signal, s) := s.hear
    match signal with
    | none => ({ p with phase := .asleep }, s)
    | some signal => proceed (next signal) s

/-- When the next step is due, if it ever is. -/
def due (p : Performer σ) (s : Scene) : Option Nat :=
  match p.phase with
  | .acting => some s.time
  | .delayed due _ => some due
  | .asleep => if s.isCancelled || !s.isQuiet then some s.time else none
  | .stuck | .crashed | .halted => none

/-- Whether it has come to an end. -/
def isOver (p : Performer σ) : Bool := p.phase = .crashed || p.phase = .halted

end Performer
end Agenda.Rehearsal
