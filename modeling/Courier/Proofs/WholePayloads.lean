import Courier.Proofs.Deliveries
import Courier.Proofs.Json.Beginnings

/-!
# Only whole payloads are delivered

A payload that breaks off within the text of a notification, or that goes on after it with anything but blanks, is
turned away before a single call is made (`dispatch_whole`). It rests on `Wire.decode_beginning` and
`Wire.decode_append`, which hold of all records.
-/

namespace Courier

open Json

namespace Wire

variable {α : Type} [Wire α] (hα : (shape α).Proper) (hread : Delimited (shape α).read) (a : α)

include hα hread

theorem decode_beginning {cut : Octets} (hcut : cut <+: encode a) (hne : cut ≠ encode a) :
    ∃ p, decode (α := α) cut = .error p := by
  obtain ⟨p, hp⟩ := Shape.decode_beginning hα hread (toValue a) hcut hne
  refine ⟨p, ?_⟩
  rw [decode, hp]
  rfl

theorem decode_append (more : Octets) :
    decode (encode a ++ more) = if more.all isBlank = true then .ok a else .error .malformed := by
  rw [decode, encode, Shape.decode_append hα hread]
  split
  · exact congrArg Except.ok (ofValue_toValue a)
  · rfl

end Wire

variable (n : Notification)

/-- A notification travels as a record whose fields are told apart. -/
theorem Notification.proper_shape : (Wire.shape Notification).Proper := by
  simp [Wire.shape, Shape.Proper, Fields.Proper, Fields.names]

theorem Notification.delimited_read : Delimited (Wire.shape Notification).read := Shape.delimited_read _

namespace Dispatch

/-- A payload that is turned away: in all surroundings it is unreadable, and not a single call is made. -/
def TurnsAway (payload : Octets) : Prop :=
  ∃ p, ∀ es a, (dispatch payload).Unfolds es a ↔ es = [] ∧ a = .error (.unreadable p)

theorem turnsAway_of_decode {payload : Octets} {p : Problem}
    (h : (Wire.decode payload : Except Problem Notification) = .error p) : TurnsAway payload := by
  refine ⟨p, fun es a => ?_⟩
  rw [dispatch_of_unreadable h, Plan.unfolds_done_iff]

/-- **Only whole payloads are delivered.** No beginning of the text of a notification but the whole of it leads to a
call, nor does the text with anything after it but blanks, such as a second text; blanks after it change nothing. -/
theorem dispatch_whole :
    (∀ cut, cut <+: Wire.encode n → cut ≠ Wire.encode n → TurnsAway cut) ∧
    (∀ more, more.all isBlank = false → TurnsAway (Wire.encode n ++ more)) ∧
    (∀ m : Notification, TurnsAway (Wire.encode n ++ Wire.encode m)) ∧
    ∀ more, more.all isBlank = true → dispatch (Wire.encode n ++ more) = dispatch (Wire.encode n) := by
  have hdecode := Wire.decode_append Notification.proper_shape Notification.delimited_read n
  have hmore : ∀ more, more.all isBlank = false → TurnsAway (Wire.encode n ++ more) := by
    intro more hblank
    refine turnsAway_of_decode (p := .malformed) ?_
    rw [hdecode, if_neg (by rw [hblank]; exact Bool.false_ne_true)]
  refine ⟨fun cut hcut hne => ?_, hmore, fun m => hmore _ (Shape.write_not_blank _ _), fun more hblank => ?_⟩
  · obtain ⟨p, hp⟩ := Wire.decode_beginning Notification.proper_shape Notification.delimited_read n hcut hne
    exact turnsAway_of_decode hp
  · rw [dispatch, hdecode, if_pos hblank, dispatch, decode_encode_notification]

theorem dispatch_whole_threefold :
    TurnsAway ((Wire.encode (threefold 0)).take 70) ∧
    TurnsAway (Wire.encode (threefold 0) ++ [code '\n', 0xC3]) ∧
    dispatch (Wire.encode (threefold 0) ++ [code '\n', code ' ']) = dispatch (Wire.encode (threefold 0)) := by
  obtain ⟨hcut, hmore, -, hblank⟩ := dispatch_whole (threefold 0)
  refine ⟨hcut _ (List.take_prefix _ _) ?_, hmore _ (by decide), hblank _ (by decide)⟩
  exact fun h => absurd (congrArg List.length h) (by decide +kernel)

end Dispatch

end Courier
