import Courier.FailureRecord

/-!
# Failure records in memory

Failed attempts in the order in which they were written down. Ids count from one, and no record is ever changed or
removed.
-/

namespace Courier.Memory

/-- The records, the oldest first. -/
abbrev Records := List FailureRecord

namespace Records

/-- The id of the next record. -/
def nextId (rs : Records) : Int64 := Int64.ofNat (rs.length + 1)

/-- Writes an attempt down, at the moment that belongs to its id. -/
def add (rs : Records) (moment : Int64 → Instant) (d : FailureDraft) : FailureRecord × Records :=
  let r : FailureRecord := ⟨rs.nextId, d.uuid, d.body, d.error, moment rs.nextId⟩
  (r, rs ++ [r])

/-- The record with an id. -/
def find (rs : Records) (id : Int64) : Option FailureRecord := List.find? (fun r => r.id == id) rs

end Records

end Courier.Memory
