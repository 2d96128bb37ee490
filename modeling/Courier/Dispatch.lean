import Courier.Error
import Courier.Plan

/-!
# Dispatch

A notification from the queue goes to all of its channels at the same time. One channel that accepts it makes the
attempt a success. When none does, the attempt is written down with a higher retry counter, unless no attempt is left.
-/

namespace Courier

/-- How a dispatch ends without an error. -/
inductive Outcome
  /-- Some channel accepted the notification. -/
  | delivered (succeeded failed : Nat)
  /-- No channel did; the attempt was written down with a new counter. -/
  | retryRecorded (retries record : Int64)
  deriving DecidableEq, Repr

namespace Dispatch

/-- Counters of recorded attempts stay below this number. -/
def maxRetries : Int64 := 3

/-- What is posted to the webhook of a chat service; email has none. -/
def webhookBody (p : Platform) (title message : String) : Option Json :=
  match p with
  | .email => none
  | .slack => some (.object [("text", .text (title ++ ": " ++ message))])
  | .discord => some (.object [("content", .text (title ++ ": " ++ message))])

/-- The call that delivers a notification to a channel. -/
def delivery (n : Notification) (c : Channel) : Call :=
  match webhookBody c.platform n.title n.message with
  | none => .sendEmail ⟨c.target, n.title, n.message⟩
  | some body => .post c.target body

/-- Why a delivery failed, if it did. A webhook accepts with a status below 300. -/
def refusal? : (c : Call) → c.Reply → Option String
  | .post _ _, .ok (status : Nat) =>
    if status < 300 then none else some ("webhook returned status " ++ Decimal.ofNat status)
  | _, .ok _ => none
  | _, .error e => some e

/-- A failed delivery with the channel that it was for. -/
def complaint (c : Channel) (e : String) : String :=
  "channel " ++ Decimal.ofInt c.id.toInt ++ " (" ++ c.platform.name ++ "): " ++ e

/-- What the channels complain about, in their order. -/
def complaints (n : Notification) : (cs : List Channel) → Call.Replies (cs.map (delivery n)) → List String
  | [], _ => []
  | c :: cs, (rs : (delivery n c).Reply × Call.Replies (cs.map (delivery n))) =>
    match refusal? (delivery n c) rs.1 with
    | some e => complaint c e :: complaints n cs rs.2
    | none => complaints n cs rs.2

/-- The complaints as one text. -/
def summary : List String → String
  | [] => "no channels resolved"
  | es => ", ".intercalate es

/-- Writes a failed attempt down, unless none is left. -/
def giveWay (n : Notification) (errors : String) : Plan (Except RelayError Outcome) :=
  if maxRetries - 1 ≤ n.retries then .done (.error (.exhausted n.uuid n.retries errors))
  else
    let next := { n with retries := n.retries + 1 }
    .ask (.recordFailure ⟨n.uuid, Wire.encode next, errors⟩) fun
      | .error e => .done (.error (.unrecorded e))
      | .ok (r : FailureRecord) => .done (.ok (.retryRecorded next.retries r.id))

/-- Delivers a notification to all of its channels. -/
def deliver (n : Notification) : Plan (Except RelayError Outcome) :=
  let channels := n.channels.values
  .gather (channels.map (delivery n)) fun rs =>
    let failed := complaints n channels rs
    if failed.length < channels.length then
      .done (.ok (.delivered (channels.length - failed.length) failed.length))
    else giveWay n (summary failed)

/-- Delivers what a payload holds. -/
def dispatch (payload : Octets) : Plan (Except RelayError Outcome) :=
  match (Wire.decode payload : Except Json.Problem Notification) with
  | .error p => .done (.error (.unreadable p))
  | .ok n =>
    if n.retries < 0 then
      .done (.error (.invalid ("notification " ++ n.uuid ++ " carries a negative retry counter (" ++
        Decimal.ofInt n.retries.toInt ++ ")")))
    else deliver n

end Dispatch

end Courier
