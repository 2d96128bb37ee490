import Courier.Notification

/-!
# Failure records

Every attempt that failed is written down with the notification as it was sent, for whoever tries again later.
-/

namespace Courier

open Json

/-- A failed attempt that has not been written down yet. -/
structure FailureDraft where
  uuid : String
  /-- The text of the notification. -/
  body : Octets
  error : String
  deriving DecidableEq

/-- A failed attempt that has been written down. -/
structure FailureRecord where
  id : Int64
  uuid : String
  body : Octets
  error : String
  createdAt : Instant
  deriving DecidableEq

/-- A failed attempt with its notification read back. -/
structure FailureView where
  id : Int64
  uuid : String
  body : Notification
  error : String

instance : Wire FailureRecord where
  shape := .record (.cons "id" .refused .integer <| .cons "uuid" .refused .text <|
    .cons "body" .refused (.list .octet) <| .cons "error" .refused .text <| .cons "created_at" .refused .instant .nil)
  toValue r := (r.id, r.uuid, r.body, r.error, r.createdAt, ())
  ofValue := fun (i, u, b, e, t, ()) => ⟨i, u, b, e, t⟩
  ofValue_toValue _ := rfl
  toValue_ofValue _ := rfl

instance : Wire FailureView where
  shape := .record (.cons "id" .refused .integer <| .cons "uuid" .refused .text <|
    .cons "body" .refused (Wire.shape Notification) <| .cons "error" .refused .text .nil)
  toValue v := (v.id, v.uuid, Wire.toValue v.body, v.error, ())
  ofValue := fun (i, u, b, e, ()) => ⟨i, u, Wire.ofValue b, e⟩
  ofValue_toValue v := by
    obtain ⟨i, u, b, e⟩ := v
    simp only [Wire.ofValue_toValue]
  toValue_ofValue v := by
    obtain ⟨i, u, b, e, ⟨⟩⟩ := v
    simp only [Wire.toValue_ofValue]
    rfl

end Courier
