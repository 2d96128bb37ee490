/-!
# Octets

Everything that travels (queue payloads, request bodies, cache values) is a list of octets. A text is written as its
UTF-8 octets, and octets are a text only when they are valid UTF-8; the two directions are inverse to each other
(`text?_ofText`, `ofText_of_text?`).
-/

namespace Courier

/-- A finite sequence of octets. -/
abbrev Octets := List UInt8

namespace Octets

/-- The UTF-8 octets of a text. -/
def ofText (s : String) : Octets := s.toByteArray.data.toList

/-- The text that the octets spell in UTF-8, if they are valid. -/
def text? (o : Octets) : Option String := String.fromUTF8? ⟨o.toArray⟩

/-- The octets of characters below 128, one for each. -/
def ofAscii (cs : List Char) : Octets := cs.map fun c => c.toNat.toUInt8

/-- The characters whose code points are the octets. -/
def toAscii (o : Octets) : List Char := o.map fun b => Char.ofNat b.toNat

theorem text?_ofText (s : String) : text? (ofText s) = some s := by
  simp [text?, ofText, String.fromUTF8?, s.isValidUTF8, String.fromUTF8]

theorem ofText_of_text? {o : Octets} {s : String} (h : text? o = some s) : ofText s = o := by
  unfold text? String.fromUTF8? at h
  split at h
  · cases h; simp [ofText, String.fromUTF8]
  · cases h

theorem ofText_injective {s t : String} (h : ofText s = ofText t) : s = t := by
  have hs := text?_ofText s
  rw [h, text?_ofText] at hs
  exact (Option.some.inj hs).symm

end Octets

end Courier
