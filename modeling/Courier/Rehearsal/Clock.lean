import Courier.Rehearsal.Turn

/-!
# The clock of a rehearsal

Time passes when somebody waits (`World.wait`). First the tasks in line go on, in their order, then the clock moves to
the next moment at which a task or the wait itself is due. Tasks that are due at the same moment go on in the order in
which they fell asleep, and whoever waits comes before them. Somebody who waits for no time at all does not wait, and
no task goes on.
-/

namespace Courier.Rehearsal

namespace World

/-- Carries a hand-off on until it has ended or its payload is on its way. -/
def carry (w : World) (id : Nat) (p : Plan (Except RelayError Unit)) : World :=
  match advance p w with
  | (.ended r, w) => { w with outcomes := (id, r) :: w.outcomes }
  | (.underway topic payload next, w) =>
    { w with sleepers := w.sleepers ++ [⟨w.now + w.setup.delay, ⟨[], .landing id topic payload next⟩⟩] }
  | (_, w) => w

/-- Lets an event happen. -/
def happen (w : World) : Event → World
  | .handoff id plan => w.carry id plan
  | .landing id topic payload next =>
    let (r, w) := w.push topic payload
    w.carry id (next r)
  | .arrival payload => (w.push w.setup.topic payload).2
  | .signal => w.signal
  | .turn => w.turn

/-- Lets a task go on: it sleeps again, or its event happens. -/
def proceed (w : World) (t : Task) : World := (w.nap? t).getD ((w.happen t.event).rouse w)

/-- The next moment at which a task is due. -/
def nextDue (w : World) : Option Nat := (w.sleepers.map Sleeper.due).min?

/-- Moves the clock to a moment, at which the tasks that are due get into line. -/
def strike (w : World) (moment : Nat) : World :=
  let (due, asleep) := w.sleepers.partition fun s => s.due ≤ moment
  { w with now := max w.now moment, ready := w.ready ++ due.map Sleeper.task, sleepers := asleep }

/-- Lets tasks go on and time pass until no task is in line and something is the case, or until a moment if there is
one; at most so many times. -/
def waitUntil (isOver : World → Bool) (moment : Option Nat) : Nat → World → World
  | 0, w => w
  | n + 1, w =>
    match w.ready with
    | t :: ts => waitUntil isOver moment n ({ w with ready := ts }.proceed t)
    | [] =>
      if isOver w then w
      else
        match w.nextDue, moment with
        | none, none => w
        | none, some m => w.strike m
        | some d, none => waitUntil isOver moment n (w.strike d)
        | some d, some m => if m ≤ d then w.strike m else waitUntil isOver moment n (w.strike d)

/-- More than the tasks and the worker can do: a task goes on at most three times and falls asleep at most twice, and
every turn of the worker takes a payload, an error, or time that the shift has. -/
def effort (w : World) : Nat :=
  let tasks := w.ready.length + w.sleepers.length
  let turns :=
    match w.worker with
    | some k => k.shift.stop.getD 0 + k.errors.length + w.waiting.length + tasks + 2
    | none => 0
  5 * tasks + 2 * turns + 2

/-- Waits until something is the case, at most up to a moment. -/
def wait (w : World) (isOver : World → Bool) (moment : Option Nat) : World := waitUntil isOver moment w.effort w

/-- Waits for a moment, if it is not there yet. -/
def sleepTo (w : World) (moment : Nat) : World := if w.now < moment then w.wait (fun _ => false) (some moment) else w

/-- Lets the tasks in line go on. -/
def giveWay (w : World) : World := w.wait (fun _ => true) none

end World

end Courier.Rehearsal
