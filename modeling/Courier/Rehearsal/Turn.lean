import Courier.Dispatch
import Courier.Rehearsal.World

/-!
# The turns of the worker

The worker goes on by the moves of its machine (`World.move`). In one turn it asks for payloads and dispatches them
until it has to wait for a payload, rests after an error, or stops. A new payload, a signal, or the end of its wait or
rest gives it its next turn (`World.rouse`).
-/

namespace Courier.Rehearsal

namespace World

/-- Dispatches a payload. -/
def dispatch (w : World) (payload : Octets) : Except RelayError Outcome × World :=
  (Dispatch.dispatch payload).run answer w

/-- The state of the worker as its machine sees it. -/
def machine (w : World) (k : Work) : Worker.State :=
  { phase := k.phase, queue := w.waiting, flag := k.flag, now := w.now }

/-- Makes a move of the machine. A move that cannot be made changes nothing. -/
def move (w : World) (m : Worker.Move) : World :=
  match w.worker with
  | none => w
  | some k =>
    match Worker.step (w.machine k) m with
    | none => w
    | some s =>
      let queues := Named.put w.stores.queues w.setup.topic s.queue
      { w with worker := some { k with phase := s.phase, flag := s.flag }, stores := { w.stores with queues } }

/-- Tells the worker to stop. -/
def signal (w : World) : World :=
  match w.worker with
  | some k => w.move (if k.shift.abandons then .abandon else .raise)
  | none => w

/-- The worker asks for a payload. -/
def ask (w : World) (k : Work) : World :=
  let w := w.note (.consume w.setup.topic k.shift.poll (w.now - k.start))
  match k.errors with
  | _ :: errors => { w with worker := some { k with errors } }.move .refused
  | [] => w.move .look

/-- The wait of the worker for a payload ends. Without a payload it is told to stop, unless that has a moment of its
own. -/
def endWait (w : World) : World :=
  let w := w.move .wake
  match w.worker with
  | some k => if k.phase = .ready ∧ k.shift.stop = none then w.signal else w
  | none => w

/-- Lets the worker sleep. -/
def rest (w : World) (n : Nat) : World := (w.nap? ⟨[n], .turn⟩).getD w

/-- The worker goes on until it has to wait, at most so many times. -/
def work : Nat → World → World
  | 0, w => w
  | n + 1, w =>
    match w.worker with
    | none => w
    | some k =>
      match k.phase with
      | .ready =>
        match k.flag with
        | .raised => w.move .look
        | .abandoned => w.move .halt
        | .down => work n (w.ask k)
      | .handling p => work n ((w.dispatch p).2.move .finish)
      | .waiting => if k.shift.poll = 0 then work n w.endWait else w.rest k.shift.poll
      | .resting _ => w.rest Worker.restLength
      | .stopped => w

/-- Whether a task is a turn of the worker. -/
def isTurn (t : Task) : Bool :=
  match t.event with
  | .turn => true
  | _ => false

/-- Whether a task is there because of the worker only. -/
def isOfWorker (t : Task) : Bool :=
  match t.event with
  | .turn | .signal => true
  | _ => false

/-- A turn of the worker. A flag that is no longer down ends waits and rests. -/
def turn (w : World) : World :=
  let w := { w with sleepers := w.sleepers.filter fun s => !isTurn s.task }
  let enough := 2 * w.waiting.length + 4
  match w.worker with
  | none => w
  | some k =>
    match k.phase with
    | .waiting => if k.flag = .down then work enough w.endWait else w.move .halt
    | .resting _ => if k.flag = .down then work enough (w.move .resume) else w.move .halt
    | _ => work enough w

/-- Puts the worker in line if what has happened since some world ends its wait: a payload for a payload, a signal for
anything. -/
def rouse (w : World) (before : World) : World :=
  match w.worker with
  | none => w
  | some k =>
    let isEnded : Bool :=
      match k.phase with
      | .waiting => before.pushes < w.pushes || k.flag != .down
      | .resting _ => k.flag != .down
      | _ => false
    if isEnded ∧ ¬ w.ready.any isTurn then w.enlist ⟨[], .turn⟩ else w

end World

end Courier.Rehearsal
