import Courier.Channel

/-!
# Notifications

A request names a business event and the targets that should hear of it. A notification is a request whose targets have
been turned into channels; it is what waits in the queue.
-/

namespace Courier

open Json

/-- The business event that a notification is about. -/
structure Event where
  name : String
  currency : String
  requester : String
  receiver : String
  category : String
  /-- Seconds since 1970-01-01T00:00:00. -/
  timestamp : Int64
  /-- The value in hundredths of the currency. -/
  cents : Int64
  deriving DecidableEq

/-- What a caller asks for. -/
structure Request where
  uuid : String
  title : String
  message : String
  /-- Channel ids and group names. -/
  targets : List String
  event : Option Event
  deriving DecidableEq

/-- What is delivered, and how often delivery has failed before. -/
structure Notification where
  uuid : String
  title : String
  message : String
  channels : Keyed Channel
  event : Event
  retries : Int64

/-- An email to one recipient. -/
structure Email where
  recipient : String
  subject : String
  body : String
  deriving DecidableEq

instance : Wire Event where
  shape := .record (.cons "name" .refused .text <| .cons "currency" .refused .text <|
    .cons "requester" .refused .text <| .cons "receiver" .refused .text <| .cons "category" .refused .text <|
    .cons "timestamp" .refused .integer <| .cons "cost_cents" .refused .integer .nil)
  toValue e := (e.name, e.currency, e.requester, e.receiver, e.category, e.timestamp, e.cents, ())
  ofValue := fun (n, c, q, r, k, t, v, ()) => ⟨n, c, q, r, k, t, v⟩
  ofValue_toValue _ := rfl
  toValue_ofValue _ := rfl

instance : Wire Request where
  shape := .record (.cons "uuid" .anywhere .text <| .cons "title" .anywhere .text <| .cons "message" .anywhere .text <|
    .cons "channels" .anywhere (.list .text) <| .cons "event" .inObjects (.optional (Wire.shape Event)) .nil)
  toValue r := (r.uuid, r.title, r.message, r.targets, r.event.map Wire.toValue, ())
  ofValue := fun (u, t, m, c, (e : Option (Wire.shape Event).Value), ()) => ⟨u, t, m, c, e.map Wire.ofValue⟩
  ofValue_toValue r := by
    obtain ⟨u, t, m, c, e⟩ := r
    cases e <;> simp [Wire.ofValue_toValue]
  toValue_ofValue v := by
    obtain ⟨u, t, m, c, e, ⟨⟩⟩ := v
    cases e <;> rfl

instance : Wire Notification where
  shape := .record (.cons "uuid" .refused .text <| .cons "title" .refused .text <| .cons "message" .refused .text <|
    .cons "channels" .refused (.keyed (Wire.shape Channel)) <| .cons "event" .refused (Wire.shape Event) <|
    .cons "retries" .refused .integer .nil)
  toValue n := (n.uuid, n.title, n.message, n.channels.map Wire.toValue, Wire.toValue n.event, n.retries, ())
  ofValue := fun (u, t, m, (c : Keyed (Wire.shape Channel).Value), e, r, ()) =>
    ⟨u, t, m, c.map Wire.ofValue, Wire.ofValue e, r⟩
  ofValue_toValue n := by
    obtain ⟨u, t, m, c, e, r⟩ := n
    simp only [Wire.ofValue_toValue, Keyed.map_map_of_inverse Wire.ofValue_toValue]
  toValue_ofValue v := by
    obtain ⟨u, t, m, c, e, r, ⟨⟩⟩ := v
    have h := Keyed.map_map_of_inverse (f := Wire.ofValue (α := Channel)) Wire.toValue_ofValue c
    simp only [Wire.toValue_ofValue]
    rw [h]

instance : Wire Email where
  shape := .record (.cons "recipient" .refused .text <| .cons "subject" .refused .text <|
    .cons "body" .refused .text .nil)
  toValue e := (e.recipient, e.subject, e.body, ())
  ofValue := fun (r, s, b, ()) => ⟨r, s, b⟩
  ofValue_toValue _ := rfl
  toValue_ofValue _ := rfl

end Courier
