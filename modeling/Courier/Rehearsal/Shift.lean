import Courier.Worker

/-!
# Shifts

What the worker is given for one run, and where it stands in it.
-/

namespace Courier.Rehearsal

/-- What the worker is given. Spans are in milliseconds. -/
structure Shift where
  /-- How long it waits for a payload. -/
  poll : Nat
  /-- The errors of the queue when it is first asked. -/
  errors : List String
  /-- The payloads that come, with their moments counted from the start. -/
  arrivals : List (Nat × Octets)
  /-- When it is told to stop; otherwise it is told when no payload has come for the first time. -/
  stop : Option Nat
  /-- Whether whoever could raise the flag leaves instead. -/
  abandons : Bool
  /-- Whether the flag is raised from the start. -/
  raised : Bool

/-- The worker at work. -/
structure Work where
  shift : Shift
  /-- The moment at which it was started. -/
  start : Nat
  phase : Worker.Phase
  flag : Worker.Flag
  /-- The errors of the queue that are still to come. -/
  errors : List String

/-- A worker that is about to start. -/
def Shift.begin (s : Shift) (now : Nat) : Work := ⟨s, now, .ready, if s.raised then .raised else .down, s.errors⟩

end Courier.Rehearsal
