import Courier.Json.Wire

/-!
# Channels

A channel is one addressable receiver: an email address or the URL of a chat webhook, in a group.
-/

namespace Courier

open Json

/-- A receiver of notifications. -/
structure Channel where
  id : Int64
  platform : Platform
  /-- The email address or webhook URL. -/
  target : String
  group : String
  deriving DecidableEq

/-- A channel that a caller wants to have, as it was asked for. -/
structure ChannelDraft where
  platform : String
  target : String
  group : String
  deriving DecidableEq

instance : Wire Channel where
  shape := .record (.cons "id" .refused .integer <| .cons "platform" .refused .platform <|
    .cons "target_id" .refused .text <| .cons "group" .refused .text .nil)
  toValue c := (c.id, c.platform, c.target, c.group, ())
  ofValue := fun (i, p, t, g, ()) => ⟨i, p, t, g⟩
  ofValue_toValue _ := rfl
  toValue_ofValue _ := rfl

instance : Wire ChannelDraft where
  shape := .record (.cons "platform" .refused .text <| .cons "target_id" .refused .text <|
    .cons "group" .refused .text .nil)
  toValue d := (d.platform, d.target, d.group, ())
  ofValue := fun (p, t, g, ()) => ⟨p, t, g⟩
  ofValue_toValue _ := rfl
  toValue_ofValue _ := rfl

end Courier
