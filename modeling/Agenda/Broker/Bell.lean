/-! How streams wait for messages. One ring wakes one sleeper, the one that has slept longest, and a
ring that finds nobody asleep is kept for the next that would fall asleep. -/
namespace Agenda

structure Bell where
  /-- A ring that woke nobody. -/
  spare : Bool
  /-- Who sleeps, the longest first. -/
  asleep : List Nat
  /-- Who was woken and has not come back yet. -/
  woken : List Nat
deriving DecidableEq

namespace Bell

def silent : Bell := ⟨false, [], []⟩

def ring (b : Bell) : Bell :=
  match b.asleep with
  | [] => { b with spare := true }
  | s :: rest => { b with asleep := rest, woken := b.woken ++ [s] }

/-- Somebody finds nothing to do. A spare ring sends it to look once more, which is of no use to it
as nothing has come in between, so that it falls asleep with the ring used up. -/
def sleep (b : Bell) (s : Nat) : Bell := { b with spare := false, asleep := b.asleep ++ [s] }

/-- Somebody that was woken comes back. -/
def rise (b : Bell) (s : Nat) : Bell := { b with woken := b.woken.erase s }

/-- Somebody leaves. A ring that had woken it goes to the next one. -/
def leave (b : Bell) (s : Nat) : Bell :=
  if s ∈ b.woken then (b.rise s).ring else { b with asleep := b.asleep.erase s }

end Bell
end Agenda
