import Courier.AccessToken
import Courier.FailureRecord
import Courier.Notification
import Courier.Proofs.Json.Trees

/-!
# Values travel unchanged

What is written of a value is read back as that value, for every type whose shape is proper (`Wire.decode_encode`), and
so a text that was accepted, written anew, stands for the same value and is not changed any more (`Wire.rewrite_idem`).
`wire_round_trip` states it for the types that travel, together with the order of the channels of a notification in its
text.
-/

namespace Courier

open Json

namespace Wire

variable {α : Type} [Wire α]

/-- The canonical text of what a text denotes. -/
def rewrite (α : Type) [Wire α] (o : Octets) : Except Problem Octets := (decode (α := α) o).map encode

/-- What is written of a value is read back as that value. -/
theorem decode_encode (hα : (shape α).Proper) (a : α) : decode (encode a) = .ok a := by
  have hread := Shape.takes_write hα (toValue a) [] trivial
  rw [List.append_nil] at hread
  have hdecode : (shape α).decode (encode a) = .ok (toValue a) := by
    rw [Shape.decode, whole, encode, hread]
    rfl
  rw [decode, hdecode]
  exact congrArg Except.ok (ofValue_toValue a)

/-- A text that was accepted and written anew denotes the same value, and writing it anew changes it no more. -/
theorem rewrite_idem (hα : (shape α).Proper) {o t : Octets} (h : rewrite α o = .ok t) :
    decode (α := α) t = decode o ∧ rewrite α t = .ok t := by
  unfold rewrite at h ⊢
  cases hd : decode (α := α) o with
  | error e =>
    rw [hd] at h
    cases h
  | ok a =>
    rw [hd] at h
    cases h
    rw [decode_encode hα]
    exact ⟨rfl, rfl⟩

/-- Blanks, escapes, the order of members and members that nothing reads are not kept. -/
example :
    rewrite Channel (Octets.ofText
      " \x7b\"group\":\"ops\", \"platform\":\"sl\\u0061ck\",\"id\": -7,\"x\":[1e2],\"target_id\":\"\\/\"\x7d ") =
    .ok (Octets.ofText "\x7b\"id\":-7,\"platform\":\"slack\",\"target_id\":\"/\",\"group\":\"ops\"\x7d") := by
  rfl

end Wire

/-- The values of a type are read back from what is written of them, and every accepted text has a canonical one. -/
structure RoundTrips (α : Type) [Wire α] : Prop where
  value : ∀ a : α, Wire.decode (Wire.encode a) = .ok a
  text : ∀ o t : Octets, Wire.rewrite α o = .ok t → Wire.decode (α := α) t = Wire.decode o ∧ Wire.rewrite α t = .ok t

theorem roundTrips_of_proper {α : Type} [Wire α] (h : (Wire.shape α).Proper) : RoundTrips α :=
  ⟨Wire.decode_encode h, fun _ _ => Wire.rewrite_idem h⟩

theorem decode_encode_notification (n : Notification) : Wire.decode (Wire.encode n) = .ok n := by
  refine Wire.decode_encode ?_ n
  simp [Wire.shape, Shape.Proper, Fields.Proper, Fields.names]

/-! ## The order of channels -/

/-- The keys of the channels in a JSON value, in the order in which they stand there. -/
def Json.channelKeys? (j : Json) : Option (List (Option Int64)) :=
  match j.member? "channels" with
  | some (.object ms) => some (ms.map fun m => Decimal.int64? m.1)
  | _ => none

theorem Keyed.keys_ascending {α : Type} (m : Keyed α) : m.keys.Pairwise (· < ·) :=
  List.pairwise_map.mpr m.ascending

/-- The channels of a notification stand in its tree by their keys, in their order. -/
theorem channelKeys?_tree (n : Notification) :
    ((Wire.shape Notification).tree (Wire.toValue n)).channelKeys? = some (n.channels.keys.map some) := by
  have hmember : ((Wire.shape Notification).tree (Wire.toValue n)).member? "channels" =
      some (.object ((n.channels.map Wire.toValue).entries.map fun e =>
        (Decimal.ofInt e.1.toInt, (Wire.shape Channel).tree e.2))) := rfl
  rw [Json.channelKeys?, hmember]
  simp [Keyed.map, Keyed.keys, Decimal.int64?_ofInt]

/-- **Values travel unchanged.** For every type that travels, what is written of a value is read back as that value, and
an accepted text that is written anew denotes the same value and is not changed any more. The channels of a notification
stand in its text in strictly ascending order of their keys. -/
theorem wire_round_trip :
    (RoundTrips Platform ∧ RoundTrips Channel ∧ RoundTrips Event ∧ RoundTrips Request ∧ RoundTrips Notification ∧
      RoundTrips FailureRecord ∧ RoundTrips FailureView ∧ RoundTrips Email ∧ RoundTrips AccessToken) ∧
    (∀ n : Notification, ∃ j, Json.parse (Wire.encode n) = .ok j ∧
      j.channelKeys? = some (n.channels.keys.map some) ∧ n.channels.keys.Pairwise (· < ·)) ∧
    ∀ v : FailureView, ∃ j b, Json.parse (Wire.encode v) = .ok j ∧ j.member? "body" = some b ∧
      b.channelKeys? = some (v.body.channels.keys.map some) ∧ v.body.channels.keys.Pairwise (· < ·) := by
  refine ⟨?_, fun n => ?_, fun v => ?_⟩
  · refine ⟨?_, ?_, ?_, ?_, ?_, ?_, ?_, ?_, ?_⟩ <;> refine roundTrips_of_proper ?_ <;>
      simp [Wire.shape, Shape.Proper, Fields.Proper, Fields.names, Shape.isOptional]
  · exact ⟨_, Shape.parse_write _ _, channelKeys?_tree n, n.channels.keys_ascending⟩
  · exact ⟨_, _, Shape.parse_write _ _, rfl, channelKeys?_tree v.body, v.body.channels.keys_ascending⟩

end Courier
