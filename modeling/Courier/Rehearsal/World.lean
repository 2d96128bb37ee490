import Courier.Error
import Courier.Memory.Stores
import Courier.Rehearsal.Shift

/-!
# The world of a rehearsal

Plans are rehearsed against collaborators in memory that can be told to fail, before or after a call reaches them, and
with a clock that moves only when something waits for it. `World.answer` answers a call at once; `World.advance` carries
a plan on as far as it goes without waiting. Two things wait: a payload on its way into a slow queue, and a lookup that
is to meet one of the other kind. Hand-offs, the worker and all that happens around it are tasks, which stand in line
until somebody waits, or sleep until a moment.
-/

namespace Courier.Rehearsal

open Memory

/-- Where a call can be made to fail. -/
inductive Point
  | lookupById
  | lookupByGroup
  | readMarker
  | keepMarker
  | enqueue
  | recordFailure
  | loadFailure
  | sendEmail
  | post
  deriving DecidableEq, Repr

/-- Where a call is made to fail. -/
def Point.ofCall? : Call → Option Point
  | .channelsWithIds _ => some .lookupById
  | .channelsInGroups _ => some .lookupByGroup
  | .readMarker _ => some .readMarker
  | .keepMarker _ _ _ => some .keepMarker
  | .enqueue _ _ => some .enqueue
  | .recordFailure _ => some .recordFailure
  | .loadFailure _ => some .loadFailure
  | .sendEmail _ => some .sendEmail
  | .post _ _ => some .post
  | _ => none

/-- How the stores of a rehearsal are set up. -/
structure Setup where
  channels : List Channel
  /-- The topic whose queue takes the notifications. -/
  topic : String
  /-- What always fails once a call has reached it, and why. -/
  faults : List (Point × String)
  /-- The answers of webhooks; the others answer with 200. -/
  statuses : List (String × Nat)
  /-- The webhooks that cannot be reached. -/
  unreachable : List String
  /-- How long a payload is on its way into the queue, in milliseconds. -/
  delay : Nat
  /-- Whether a lookup waits for one of the other kind. -/
  rendezvous : Bool
  /-- How long the guard keeps a marker, in milliseconds. -/
  lifetime : Nat

namespace Setup

/-- Why calls that reach a point fail. A cache that cannot be read takes markers all the same. -/
def fault? (s : Setup) (p : Point) : Option String :=
  if p = .keepMarker ∧ (s.faults.lookup .readMarker).isSome then none else s.faults.lookup p

end Setup

/-- What is noted down while a rehearsal goes on. -/
inductive Note
  /-- A call of a plan. -/
  | call (c : Call)
  /-- The worker asked for a payload, at a moment counted from its start. -/
  | consume (topic : String) (timeout moment : Nat)

/-- What happens by itself while a caller or an operator waits. -/
inductive Event
  /-- A hand-off with a number goes on. -/
  | handoff (id : Nat) (plan : Plan (Except RelayError Unit))
  /-- The payload of a hand-off comes to the end of its way into the queue. -/
  | landing (id : Nat) (topic : String) (payload : Octets)
      (next : Except String Unit → Plan (Except RelayError Unit))
  /-- A payload for the worker comes. -/
  | arrival (payload : Octets)
  /-- The worker is told to stop. -/
  | signal
  /-- The worker goes on. -/
  | turn

/-- An event and the spans for which it sleeps before, one after another. -/
structure Task where
  naps : List Nat
  event : Event

/-- A task that sleeps until a moment. -/
structure Sleeper where
  due : Nat
  task : Task

/-- The stores, the clock, and what is going on. -/
structure World where
  setup : Setup
  /-- The clock by which payloads travel and callers wait. -/
  now : Nat
  /-- The stores. Their own clock stands still, so the only markers that expire are those kept for no time at all. -/
  stores : Stores
  /-- The emails that were accepted. -/
  sent : Nat
  /-- The webhooks that were reached. -/
  posts : Nat
  /-- The lookups by ids that reached the channels. -/
  idLookups : Nat
  /-- The lookups by groups that reached the channels. -/
  groupLookups : Nat
  /-- The payloads that have ever been appended to a queue. -/
  pushes : Nat
  /-- What fails at present before a call reaches it, and why. -/
  faults : List (Point × String)
  /-- The tasks that go on as soon as somebody waits, the first one first. -/
  ready : List Task
  /-- The tasks that sleep, in the order in which they fell asleep. -/
  sleepers : List Sleeper
  /-- How many hand-offs have ever been begun. -/
  handoffs : Nat
  /-- How hand-offs ended, by their numbers. -/
  outcomes : List (Nat × Except RelayError Unit)
  /-- The worker, while there is one. -/
  worker : Option Work
  /-- What has been noted down, the latest first. -/
  notes : List Note

namespace World

/-- The world before anything has happened. -/
def new (s : Setup) : World where
  setup := s
  now := 0
  stores := .ofChannels s.channels
  sent := 0
  posts := 0
  idLookups := 0
  groupLookups := 0
  pushes := 0
  faults := []
  ready := []
  sleepers := []
  handoffs := 0
  outcomes := []
  worker := none
  notes := []

/-- Notes something down. -/
def note (w : World) (n : Note) : World := { w with notes := n :: w.notes }

/-- Counts a lookup that reaches the channels. -/
def countLookup (w : World) : Call → World
  | .channelsWithIds _ => { w with idLookups := w.idLookups + 1 }
  | .channelsInGroups _ => { w with groupLookups := w.groupLookups + 1 }
  | _ => w

/-- Counts what a call that succeeds has brought about. -/
def countEffect (w : World) : Call → World
  | .enqueue _ _ => { w with pushes := w.pushes + 1 }
  | .sendEmail _ => { w with sent := w.sent + 1 }
  | .post _ _ => { w with posts := w.posts + 1 }
  | _ => w

/-- The answer of a collaborator that does not fail by setup. -/
def serve (w : World) : (c : Call) → c.Reply × World
  | .sendEmail _ => (.ok (), w)
  | .post url _ =>
    if w.setup.unreachable.contains url then (.error ("connection refused: " ++ url), w)
    else (.ok ((w.setup.statuses.lookup url).getD (200 : Nat)), w)
  | c =>
    let (r, stores) := w.stores.answer c
    (r, { w with stores })

/-- The answer to a call that reaches a collaborator. -/
def perform (w : World) (c : Call) : c.Reply × World :=
  let w := w.countLookup c
  match (Point.ofCall? c).bind w.setup.fault? with
  | some e => (.error e, w)
  | none =>
    match w.serve c with
    | (.ok a, w) => (.ok a, w.countEffect c)
    | (.error e, w) => (.error e, w)

/-- Appends a payload to a queue. -/
def push (w : World) (topic : String) (payload : Octets) : Except String Unit × World :=
  w.perform (.enqueue topic payload)

/-- Writes a failed attempt down. -/
def record (w : World) (d : FailureDraft) : Except String FailureRecord × World := w.perform (.recordFailure d)

/-- The payloads that wait on the topic of the notifications. -/
def waiting (w : World) : List Octets := w.stores.waiting w.setup.topic

/-- The answer to a call that fails at present before it reaches anything, if it does. -/
def presentFault? (w : World) (c : Call) : Option String := (Point.ofCall? c).bind fun p => w.faults.lookup p

/-- Notes a call down and answers it at once. -/
def answer : Plan.Responder World := fun c w =>
  let w := w.note (.call c)
  match w.presentFault? c with
  | some e => (.error e, w)
  | none => w.perform c

/-! ## Plans -/

/-- The lookups that have reached the channels. -/
def lookups (w : World) : Nat := w.idLookups + w.groupLookups

/-- How far a plan has come. -/
inductive Progress (α : Type)
  | ended (a : α)
  /-- A payload is on its way into a slow queue. -/
  | underway (topic : String) (payload : Octets) (next : Except String Unit → Plan α)
  /-- A lookup has waited for another one, which has come. -/
  | met (next : Plan α)
  /-- A lookup waits for another one that does not come. -/
  | stuck

/-- Carries a plan on until it ends or has to wait. Lookups that are to meet do so in pairs, and one that comes second
does not wait. -/
def advance {α : Type} : Plan α → World → Progress α × World
  | .done a, w => (.ended a, w)
  | .ask (.enqueue topic payload) k, w =>
    if w.setup.delay = 0 then
      let (r, w) := w.answer (.enqueue topic payload)
      advance (k r) w
    else
      let w := w.note (.call (.enqueue topic payload))
      match w.presentFault? (.enqueue topic payload) with
      | some e => advance (k (.error e)) w
      | none => (.underway topic payload k, w)
  | .ask c k, w =>
    let (r, w) := w.answer c
    advance (k r) w
  | .gather cs k, w =>
    let before := w.lookups
    let (rs, w) := Plan.answerAll answer cs w
    if w.setup.rendezvous ∧ before < w.lookups then
      if w.lookups % 2 = 1 then (.stuck, w)
      else if before + 1 < w.lookups then (.met (k rs), w)
      else advance (k rs) w
    else advance (k rs) w

/-! ## Tasks -/

/-- Puts a task at the end of the line. -/
def enlist (w : World) (t : Task) : World := { w with ready := w.ready ++ [t] }

/-- Lets a task sleep for its first span that is not empty; none when there is no such span. -/
def nap? (w : World) (t : Task) : Option World :=
  match t.naps.dropWhile (· = 0) with
  | [] => none
  | n :: ns => some { w with sleepers := w.sleepers ++ [⟨w.now + n, ⟨ns, t.event⟩⟩] }

end World

end Courier.Rehearsal
