import Courier.Guard
import Courier.Resolution
import Courier.Sentence

/-!
# Submission

A request is submitted in two parts. First it is checked and its targets are resolved (`Submission.prepare`). What comes
of it is handed off (`Handoff.run`): the guard is asked and told, and the notification is put into the queue. A hand-off
that fails writes the notification down; whether that succeeds changes nothing about its outcome. The hand-off runs to
its end once it has begun, even if nobody waits for it any longer.
-/

namespace Courier

/-- The fields of an event that must not be blank. -/
inductive EventField
  | name
  | currency
  | requester
  | receiver
  | category
  deriving DecidableEq, Repr

namespace EventField

/-- The fields in the order in which they are checked. -/
def all : List EventField := [.name, .currency, .requester, .receiver, .category]

/-- What a field is called. -/
def label : EventField → String
  | name => "name"
  | currency => "currency"
  | requester => "requester"
  | receiver => "receiver"
  | category => "category"

/-- The field of an event. -/
def ofEvent (e : Event) : EventField → String
  | name => e.name
  | currency => e.currency
  | requester => e.requester
  | receiver => e.receiver
  | category => e.category

end EventField

/-- The rules that a request can break, in the order in which they are checked. -/
inductive RequestFault
  | uuidBlank
  | titleBlank
  | targetCount (n : Nat)
  | targetEmpty
  | eventAbsent
  | eventFieldBlank (field : EventField)
  | timestampNotPositive
  deriving DecidableEq, Repr

namespace RequestFault

/-- A request names at least this many targets. -/
def leastTargets : Nat := 1

/-- A request names at most this many targets. -/
def mostTargets : Nat := 20

/-- The rule, in words. -/
def message : RequestFault → String
  | uuidBlank => "uuid is required"
  | titleBlank => "title is required"
  | targetCount n =>
    "channels must contain between " ++ Decimal.ofNat leastTargets ++ " and " ++ Decimal.ofNat mostTargets ++
      " entries, got " ++ Decimal.ofNat n
  | targetEmpty => "channels must not contain empty entries"
  | eventAbsent => "event is required"
  | eventFieldBlank f => "event." ++ f.label ++ " is required"
  | timestampNotPositive => "event.timestamp must be a positive unix timestamp"

end RequestFault

/-- The first rule that an event breaks. -/
def Event.fault? (e : Event) : Option RequestFault :=
  match EventField.all.find? fun f => Text.isBlank (f.ofEvent e) with
  | some f => some (.eventFieldBlank f)
  | none => if e.timestamp.toInt ≤ 0 then some .timestampNotPositive else none

/-- The event of a request that breaks no rule. -/
def Request.check (r : Request) : Except RequestFault Event :=
  if Text.isBlank r.uuid then .error .uuidBlank
  else if Text.isBlank r.title then .error .titleBlank
  else if r.targets.length < RequestFault.leastTargets ∨ RequestFault.mostTargets < r.targets.length then
    .error (.targetCount r.targets.length)
  else if r.targets.any fun t => t == "" then .error .targetEmpty
  else
    match r.event with
    | none => .error .eventAbsent
    | some e =>
      match e.fault? with
      | some f => .error f
      | none => .ok e

/-- The event of a request that breaks no rule; a broken one as a relay error. -/
def Request.validate (r : Request) : Except RelayError Event := r.check.mapError fun f => .invalid f.message

/-- The notification that a request with the given event and channels asks for. -/
def Request.toNotification (r : Request) (event : Event) (channels : Keyed Channel) : Notification where
  uuid := r.uuid
  title := r.title
  message := event.sentence
  channels := channels
  event := event
  retries := 0

/-- A notification on its way into a queue. -/
structure Handoff where
  topic : String
  /-- How long the guard keeps the marker, in milliseconds. -/
  lifetime : Nat
  uuid : String
  /-- The text of the notification, which is its marker as well. -/
  body : Octets
  deriving DecidableEq

namespace Handoff

/-- Appends the body to the queue. -/
def enqueue (h : Handoff) : Plan (Except RelayError Unit) :=
  .ask (.enqueue h.topic h.body) fun
    | .ok () => .done (.ok ())
    | .error e => .done (.error (.queueDown e))

/-- Asks the guard, tells it, and appends the body to the queue. -/
def attempt (h : Handoff) : Plan (Except RelayError Unit) :=
  (Guard.check h.uuid).bind fun
    | .error e => .done (.error e)
    | .ok true => .done (.error (.alreadySubmitted h.uuid))
    | .ok false =>
      (Guard.mark h.uuid h.body h.lifetime).bind fun
        | .error e => .done (.error e)
        | .ok () => h.enqueue

/-- Writes down that the hand-off failed; the outcome is the error, whether that succeeds or not. -/
def record (h : Handoff) (e : RelayError) : Plan (Except RelayError Unit) :=
  .ask (.recordFailure ⟨h.uuid, h.body, e.message⟩) fun _ => .done (.error e)

/-- The whole hand-off. -/
def run (h : Handoff) : Plan (Except RelayError Unit) :=
  h.attempt.bind fun
    | .ok () => .done (.ok ())
    | .error e => h.record e

end Handoff

/-- How a courier submits. -/
structure Submission where
  /-- The topic whose queue takes the notifications. -/
  topic : String
  /-- How long the guard keeps a marker, in milliseconds. -/
  lifetime : Nat
  deriving DecidableEq

namespace Submission

/-- Checks a request and resolves its targets. -/
def prepare (r : Request) : Plan (Except RelayError Notification) :=
  match r.validate with
  | .error e => .done (.error e)
  | .ok event =>
    (Resolution.resolve (Targets.ofTexts r.targets)).bind fun
      | .error e => .done (.error e)
      | .ok channels => .done (.ok (r.toNotification event channels))

/-- The hand-off of a notification. -/
def handoff (s : Submission) (n : Notification) : Handoff := ⟨s.topic, s.lifetime, n.uuid, Wire.encode n⟩

/-- Submits a request and waits for its hand-off. -/
def create (s : Submission) (r : Request) : Plan (Except RelayError Notification) :=
  (prepare r).bind fun
    | .error e => .done (.error e)
    | .ok n =>
      (s.handoff n).run.bind fun
        | .error e => .done (.error e)
        | .ok () => .done (.ok n)

end Submission

end Courier
