import Courier.Json.Reading

/-!
# Types with a shape

A type travels as JSON when its values correspond to those of a shape. `Wire.encode` writes the canonical text of a
value and `Wire.decode` reads any text.
-/

namespace Courier

open Json

/-- The types whose values travel as JSON. -/
class Wire (α : Type) where
  /-- What the values look like. -/
  shape : Shape
  toValue : α → shape.Value
  ofValue : shape.Value → α
  ofValue_toValue : ∀ a, ofValue (toValue a) = a
  toValue_ofValue : ∀ v, toValue (ofValue v) = v

namespace Wire

variable {α : Type} [Wire α]

/-- The canonical text of a value. -/
def encode (a : α) : Octets := (shape α).write (toValue a)

/-- The value that a text denotes. -/
def decode (o : Octets) : Except Problem α := ((shape α).decode o).map ofValue

end Wire

instance : Wire Platform where
  shape := .platform
  toValue p := p
  ofValue p := p
  ofValue_toValue _ := rfl
  toValue_ofValue _ := rfl

end Courier
