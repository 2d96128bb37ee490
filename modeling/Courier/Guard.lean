import Courier.Error
import Courier.Plan

/-!
# The guard against repeated submissions

The guard keeps a marker for every submitted name in a cache that forgets it after some time. Looking up and marking are
two calls, so two submissions of one name at the same moment can both find it free.
-/

namespace Courier.Guard

/-- What stands before a name in the key of its marker. -/
def keyStart : String := "notification:idempotency:"

/-- The key of the marker for a name. -/
def key (uuid : String) : String := keyStart ++ uuid

/-- Two hours in milliseconds: how long a marker is kept unless something else is said. -/
def standardLifetime : Nat := 7200000

/-- A stored marker counts unless it is empty. -/
def isTaken : Option Octets → Bool
  | some marker => !marker.isEmpty
  | none => false

/-- Whether a name was submitted a short while ago. -/
def check (uuid : String) : Plan (Except RelayError Bool) :=
  .ask (.readMarker (key uuid)) fun
    | .ok marker => .done (.ok (isTaken marker))
    | .error e => .done (.error (.guardDown e))

/-- Marks a name as submitted. -/
def mark (uuid : String) (marker : Octets) (lifetime : Nat) : Plan (Except RelayError Unit) :=
  .ask (.keepMarker (key uuid) marker lifetime) fun
    | .ok () => .done (.ok ())
    | .error e => .done (.error (.guardDown e))

end Courier.Guard
