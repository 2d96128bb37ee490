import Courier.FailureLog
import Courier.Rehearsal.Clock
import Courier.Submission

/-!
# The steps of a rehearsal

Each step is one thing that a caller, an operator or the worker does. Submissions can be given up while they wait; a
hand-off that has been begun by then goes on by itself in later steps, as soon as one of them waits.
-/

namespace Courier.Rehearsal

open Memory

/-- How long a caller waits before giving up, in milliseconds, unless something else is said. -/
def patience : Nat := 20000

namespace World

variable {α : Type}

/-- The topic whose queue takes the notifications. -/
def topic (w : World) : String := w.setup.topic

/-- How the courier submits. -/
def submission (w : World) : Submission := ⟨w.setup.topic, w.setup.lifetime⟩

/-- Carries a plan of lookups out and waits for it up to a deadline. A plan that has to wait is given up when the
deadline is there already. -/
def await (w : World) (deadline : Nat) (p : Plan α) : Option α × World :=
  match advance p w with
  | (.ended a, w) => (some a, w)
  | (.met next, w) =>
    if w.now < deadline then
      let (r, w) := next.run answer w.giveWay
      (some r, w)
    else (none, w)
  | (_, w) => (none, w.sleepTo deadline)

/-- Begins a hand-off, which gets into line, and waits for it up to a deadline. -/
def handOff (w : World) (deadline : Nat) (h : Handoff) : Option (Except RelayError Unit) × World :=
  let id := w.handoffs
  let w := { w with handoffs := id + 1 }.enlist ⟨[], .handoff id h.run⟩
  if w.now < deadline then
    let w := w.wait (fun v => (v.outcomes.lookup id).isSome) (some deadline)
    (w.outcomes.lookup id, w)
  else (none, w)

/-- Submits a request; none when the caller gives up after some time. A caller who gives up before the hand-off has
begun leaves nothing behind. -/
def create (w : World) (wait : Nat) (r : Request) : Option (Except RelayError Notification) × World :=
  let deadline := w.now + wait
  match w.await deadline (Submission.prepare r) with
  | (some (.error e), w) => (some (.error e), w)
  | (some (.ok n), w) =>
    let (outcome, w) := w.handOff deadline (w.submission.handoff n)
    (outcome.map fun o => o.map fun () => n, w)
  | (none, w) => (none, w)

/-- Resolves targets; none when the lookups wait for each other in vain. -/
def resolve (w : World) (raw : List String) : Option (Except RelayError (Keyed Channel)) × World :=
  w.await (w.now + patience) (Resolution.resolve (Targets.ofTexts raw))

/-- Asks the guard whether a name is taken. -/
def check (w : World) (uuid : String) : Except RelayError Bool × World := (Guard.check uuid).run answer w

/-- Tells the guard that a name is taken. -/
def mark (w : World) (uuid : String) (marker : Octets) : Except RelayError Unit × World :=
  (Guard.mark uuid marker w.setup.lifetime).run answer w

/-- Puts a marker into the cache. -/
def seed (w : World) (key : String) (marker : Octets) (lifetime : Nat) : World :=
  { w with stores := { w.stores with cache := w.stores.cache.keep w.stores.now key marker lifetime } }

/-- Whether the marker of a key is alive; none when there is no marker. -/
def cached (w : World) (key : String) : Option Bool := w.stores.cache.alive? w.stores.now key

/-- Takes the oldest payload of a topic. -/
def pop (w : World) (topic : String) : Option Octets × World :=
  let (p, queues) := w.stores.queues.pop topic
  (p, { w with stores := { w.stores with queues } })

/-- Dispatches the oldest payload; none when none waits. -/
def dispatchNext (w : World) : Option (Except RelayError Outcome) × World :=
  match w.pop w.topic with
  | (none, w) => (none, w)
  | (some p, w) =>
    let (r, w) := w.dispatch p
    (some r, w)

/-- Dispatches the notification of a record again; none when there is no such record. -/
def redrive (w : World) (id : Int64) : Option (Except RelayError Outcome) × World :=
  match w.stores.records.find id with
  | none => (none, w)
  | some r =>
    let (o, w) := w.dispatch r.body
    (some o, w)

/-- Sends a payload to a queue and waits until it is there. -/
def produce (w : World) (topic : String) (payload : Octets) : Except String Unit × World :=
  (w.sleepTo (w.now + w.setup.delay)).push topic payload

/-- Sends the notification of a record to the queue again; none when there is no such record. -/
def requeue (w : World) (id : Int64) : Option (Except String Unit) × World :=
  match w.stores.records.find id with
  | none => (none, w)
  | some r =>
    let (o, w) := w.produce w.topic r.body
    (some o, w)

/-- Looks a failed attempt up. -/
def view (w : World) (id : Int64) : Except ServiceError FailureView × World := (FailureLog.view id).run answer w

/-- Takes the oldest payload of a topic. Without one, waits until any payload comes or the time is up, and looks again;
the second part is how long that took. -/
def consume (w : World) (topic : String) (timeout : Nat) : Option Octets × Nat × World :=
  match w.pop topic with
  | (some p, w) => (some p, 0, w)
  | (none, _) =>
    let v := if timeout = 0 then w else w.wait (fun v => w.pushes < v.pushes) (some (w.now + timeout))
    let (p, u) := v.pop topic
    (p, v.now - w.now, u)

/-- Makes calls fail at a point from now on, or fail no longer. -/
def fault (w : World) (p : Point) (message : Option String) : World :=
  let others := w.faults.filter fun f => f.1 != p
  { w with faults := (message.map fun m => (p, m)).toList ++ others }

/-- Lets time pass. -/
def sleep (w : World) (n : Nat) : World := w.sleepTo (w.now + n)

/-- Whether the worker has stopped. -/
def hasStopped (w : World) : Bool := w.worker.all fun k => k.phase = .stopped

/-- The tasks of a shift in the order in which they are begun. -/
def tasksOf (w : World) (s : Shift) : List Task :=
  s.arrivals.map (fun (t, p) => ⟨[t, w.setup.delay], .arrival p⟩) ++ s.stop.toList.map (fun t => ⟨[t], .signal⟩) ++
    [⟨[], .turn⟩]

/-- Lets the worker work until it stops; the moment at which it does, counted from its start. Payloads that are still
on their way come later. -/
def runShift (w : World) (s : Shift) : Nat × World :=
  let v := { w with ready := w.ready ++ w.tasksOf s, worker := some (s.begin w.now) }.wait hasStopped none
  (v.now - w.now,
    { v with
      worker := none, ready := v.ready.filter fun t => !isOfWorker t
      sleepers := v.sleepers.filter fun s => !isOfWorker s.task })

end World

end Courier.Rehearsal
