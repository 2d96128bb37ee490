import Courier.Json.Token
import Courier.Text.Decimal

/-!
# Errors

What can keep a notification from being submitted or delivered (`RelayError`), and what a caller of the service is told
(`ServiceError`). Every relay error is told to callers as one service error, `RelayError.toService`; the wording of each
lives in `message`. Where a text could not be read or written, the reason that its reader gives is not modelled, only
the kind of problem that it met.
-/

namespace Courier

/-- What a caller of the service is told. -/
inductive ServiceError
  | database (reason : String)
  | authentication (reason : String)
  | notFound (reason : String)
  | validation (reason : String)
  | conflict (reason : String)
  | unavailable (reason : String)
  | internal (reason : String)
  deriving DecidableEq, Repr

namespace ServiceError

/-- What went wrong, without its kind. -/
def reason : ServiceError → String
  | database r | authentication r | notFound r | validation r | conflict r | unavailable r | internal r => r

/-- The words for a kind of error. -/
def heading : ServiceError → String
  | database _ => "Database error"
  | authentication _ => "Authentication error"
  | notFound _ => "Not found"
  | validation _ => "Validation error"
  | conflict _ => "Conflict"
  | unavailable _ => "Service unavailable"
  | internal _ => "Internal error"

/-- The kind of an error and its reason. -/
def message (e : ServiceError) : String := e.heading ++ ": " ++ e.reason

/-- The status code of an answer that reports an error. -/
def status : ServiceError → Nat
  | database _ | internal _ => 500
  | authentication _ => 401
  | notFound _ => 404
  | validation _ => 400
  | conflict _ => 409
  | unavailable _ => 503

/-- What an answer says about an error: its reason, and the kind as well when the database is at fault. -/
def notice : ServiceError → String
  | database r => message (database r)
  | e => e.reason

end ServiceError

/-- What keeps a notification from being submitted or delivered. -/
inductive RelayError
  /-- The request or the notification breaks a rule. -/
  | invalid (reason : String)
  /-- The channels could not be looked up. -/
  | unresolved (reason : String)
  /-- A notification of this name was submitted a short while ago. -/
  | alreadySubmitted (uuid : String)
  /-- The notification could not be written. The problem stands for the reason, in whatever words. -/
  | unwritable (problem : Json.Problem)
  /-- The guard against repeated submissions could not be asked. -/
  | guardDown (reason : String)
  /-- The queue refused the notification. -/
  | queueDown (reason : String)
  /-- The failed attempt could not be written down. -/
  | unrecorded (reason : String)
  /-- The octets from the queue are no notification. The problem stands for the reason, in whatever words. -/
  | unreadable (problem : Json.Problem)
  /-- No attempt is left; the errors are those of the last one. -/
  | exhausted (uuid : String) (retries : Int64) (errors : String)
  deriving DecidableEq, Repr

namespace RelayError

/-- What went wrong, in words. For what could not be written or read these are the words up to the colon: the reason that
would follow it is left out. -/
def message : RelayError → String
  | invalid r => "invalid notification request: " ++ r
  | unresolved r => "channel resolution failed: " ++ r
  | alreadySubmitted u => "notification " ++ u ++ " was already submitted"
  | unwritable _ => "failed to serialize notification"
  | guardDown r => "idempotency guard unavailable: " ++ r
  | queueDown r => "transport error: " ++ r
  | unrecorded r => "failed to persist failure record: " ++ r
  | unreadable _ => "unreadable notification payload"
  | exhausted u n es => "notification " ++ u ++ " exhausted after " ++ Decimal.ofInt n.toInt ++ " retries: " ++ es

/-- What a caller of the service is told about an error. -/
def toService (e : RelayError) : ServiceError :=
  match e with
  | invalid r => .validation r
  | alreadySubmitted _ => .conflict e.message
  | unresolved _ | guardDown _ | queueDown _ => .unavailable e.message
  | unwritable _ | unrecorded _ | unreadable _ | exhausted _ _ _ => .internal e.message

end RelayError

end Courier
