import Courier.Error
import Courier.Plan

/-!
# Looking failures up

A failed attempt that was written down is shown with its notification read back.
-/

namespace Courier.FailureLog

/-- Shows a record. The error about a body that cannot be read ends before the colon and the reason that would follow
it. -/
def present (id : Int64) (r : FailureRecord) : Except ServiceError FailureView :=
  match Wire.decode r.body with
  | .ok n => .ok ⟨r.id, r.uuid, n, r.error⟩
  | .error _ =>
    .error (.internal ("Failure record " ++ Decimal.ofInt id.toInt ++ " has an undecodable body"))

/-- Looks a failed attempt up. -/
def view (id : Int64) : Plan (Except ServiceError FailureView) :=
  .ask (.loadFailure id) fun
    | .error e =>
      .done (.error (.internal ("Failed to load failure record " ++ Decimal.ofInt id.toInt ++ ": " ++ e)))
    | .ok none => .done (.error (.notFound ("Notification error " ++ Decimal.ofInt id.toInt ++ " not found")))
    | .ok (some r) => .done (present id r)

end Courier.FailureLog
