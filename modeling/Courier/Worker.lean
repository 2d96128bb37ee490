import Courier.Text.Octets

/-!
# The worker

The worker takes payloads off a queue and hands them to the dispatcher one at a time, until it is told to stop. It is a
machine with labelled moves (`Worker.step`): some moves are its own, the others are those of its surroundings, which
append payloads, raise the stop flag or abandon it, and let time pass. A flag that is raised is seen at the head of the
loop, while the worker waits for a payload, and while it rests after an error; a payload that is being handled is
handled to its end. A flag that nobody can raise any longer ends waits and rests too.

How long the worker waits for a payload at most is not modelled: a wait can end at any time, with nothing to hand over
when the queue is empty.
-/

namespace Courier.Worker

/-- The rest after an error of the queue, in milliseconds. -/
def restLength : Nat := 1000

/-- Where the worker is. -/
inductive Phase
  /-- At the head of its loop. -/
  | ready
  /-- Waiting for a payload. -/
  | waiting
  /-- Busy with a payload. -/
  | handling (payload : Octets)
  /-- Resting after an error of the queue, since a moment. -/
  | resting (since : Nat)
  | stopped
  deriving DecidableEq, Repr

/-- How the stop flag stands. -/
inductive Flag
  | down
  | raised
  /-- Still down, and nobody is left to raise it. -/
  | abandoned
  deriving DecidableEq, Repr

/-- The worker and what it depends on. -/
structure State where
  phase : Phase
  /-- The payloads that wait, the oldest first. -/
  queue : List Octets
  flag : Flag
  now : Nat
  deriving DecidableEq, Repr

/-- What can happen. -/
inductive Move
  /-- The worker stops at the head of its loop if the flag is raised, and asks for a payload otherwise. -/
  | look
  /-- The queue fails, as the worker asks for a payload or while it waits for one. -/
  | refused
  /-- The wait for a payload ends, with one or without. -/
  | wake
  /-- The payload has been handled. -/
  | finish
  /-- The rest is over. -/
  | resume
  /-- The flag ends a wait or a rest. -/
  | halt
  /-- A payload is appended to the queue. -/
  | arrive (payload : Octets)
  /-- The flag is raised. -/
  | raise
  /-- Whoever could raise the flag is gone. -/
  | abandon
  /-- Time passes. -/
  | pass (n : Nat)
  deriving DecidableEq, Repr

/-- Takes the oldest payload, or does something else when there is none. -/
def take (s : State) (otherwise : Phase) : State :=
  match s.queue with
  | p :: ps => { s with phase := .handling p, queue := ps }
  | [] => { s with phase := otherwise }

/-- The state after a move, if the move can happen. -/
def step (s : State) : Move → Option State
  | .look =>
    if s.phase = .ready then
      if s.flag = .raised then some { s with phase := .stopped } else some (take s .waiting)
    else none
  | .refused =>
    if s.phase = .waiting ∨ s.phase = .ready ∧ s.flag ≠ .raised then some { s with phase := .resting s.now } else none
  | .wake => if s.phase = .waiting then some (take s .ready) else none
  | .finish =>
    match s.phase with
    | .handling _ => some { s with phase := .ready }
    | _ => none
  | .resume =>
    match s.phase with
    | .resting since => if since + restLength ≤ s.now then some { s with phase := .ready } else none
    | _ => none
  | .halt =>
    match s.phase with
    | .waiting | .resting _ => if s.flag ≠ .down then some { s with phase := .stopped } else none
    | .ready => if s.flag = .abandoned then some { s with phase := .stopped } else none
    | _ => none
  | .arrive p => some { s with queue := s.queue ++ [p] }
  | .raise => some { s with flag := .raised }
  | .abandon => if s.flag = .down then some { s with flag := .abandoned } else none
  | .pass n =>
    match s.phase with
    | .resting since => if s.now + n ≤ since + restLength then some { s with now := s.now + n } else none
    | .ready => none
    | _ => some { s with now := s.now + n }

/-- Whether a move makes the worker ask for a payload. -/
def asks (s : State) : Move → Bool
  | .look | .refused => s.phase == .ready && s.flag != .raised
  | _ => false

/-- The payload that a move hands to the dispatcher. -/
def handedOver (s : State) : Move → Option Octets
  | .look => if s.phase = .ready ∧ s.flag ≠ .raised then s.queue.head? else none
  | .wake => if s.phase = .waiting then s.queue.head? else none
  | _ => none

end Courier.Worker
