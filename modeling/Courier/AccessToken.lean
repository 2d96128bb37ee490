import Courier.Json.Wire

/-!
# Access tokens

The token that lets an admin user's programs use the service.
-/

namespace Courier

open Json

/-- A token and the admin user who holds it. -/
structure AccessToken where
  id : Int64
  token : String
  adminUser : String
  createdAt : Instant
  deriving DecidableEq

/-- The wish for a token. -/
structure TokenDraft where
  adminUser : String
  deriving DecidableEq

instance : Wire AccessToken where
  shape := .record (.cons "id" .refused .integer <| .cons "token" .refused .text <|
    .cons "admin_user" .refused .text <| .cons "created_at" .refused .instant .nil)
  toValue t := (t.id, t.token, t.adminUser, t.createdAt, ())
  ofValue := fun (i, t, u, c, ()) => ⟨i, t, u, c⟩
  ofValue_toValue _ := rfl
  toValue_ofValue _ := rfl

instance : Wire TokenDraft where
  shape := .record (.cons "admin_user" .refused .text .nil)
  toValue d := (d.adminUser, ())
  ofValue := fun (u, ()) => ⟨u⟩
  ofValue_toValue _ := rfl
  toValue_ofValue _ := rfl

end Courier
