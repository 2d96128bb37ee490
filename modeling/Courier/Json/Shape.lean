import Courier.Calendar.Instant
import Courier.Json.Quoted
import Courier.Json.Numeral
import Courier.Keyed
import Courier.Platform

/-!
# Shapes of values on the wire

A shape says what a value looks like in JSON: `Shape.Value` is the type of its values and `Shape.write` their canonical
text. A record is a list of named fields in a fixed order; its values are tuples.
-/

namespace Courier.Json

/-- Where a field of a record may be left out. It then has the empty value of its shape. -/
inductive Absence
  /-- Nowhere. -/
  | refused
  /-- In objects. -/
  | inObjects
  /-- In objects, and at the end of lists. -/
  | anywhere
  deriving DecidableEq, Repr

mutual

/-- What a value looks like in JSON. -/
inductive Shape
  /-- A text. -/
  | text
  /-- A whole number of 64 bits with a sign. -/
  | integer
  /-- A whole number of eight bits. -/
  | octet
  /-- The name of a platform. -/
  | platform
  /-- The text of an instant. -/
  | instant
  /-- A list. -/
  | list (item : Shape)
  /-- A value or `null`. -/
  | optional (item : Shape)
  /-- An object whose names are whole numbers. -/
  | keyed (item : Shape)
  /-- An object with named fields. -/
  | record (fields : Fields)

/-- The fields of a record in their order. -/
inductive Fields
  | nil
  | cons (name : String) (absence : Absence) (item : Shape) (rest : Fields)

end

mutual

/-- The values of a shape. -/
def Shape.Value : Shape → Type
  | .text => String
  | .integer => Int64
  | .octet => UInt8
  | .platform => Platform
  | .instant => Instant
  | .list s => List s.Value
  | .optional s => Option s.Value
  | .keyed s => Keyed s.Value
  | .record fs => fs.Value

/-- The values of the fields of a record, in their order. -/
def Fields.Value : Fields → Type
  | .nil => Unit
  | .cons _ _ s fs => s.Value × fs.Value

end

/-- The value of a field that is left out, for shapes that have an empty value. -/
def Shape.empty? : (s : Shape) → Option s.Value
  | .text => some ("" : String)
  | .list s => some ([] : List s.Value)
  | .optional s => some (none : Option s.Value)
  | _ => none

/-- A name between quotes and a colon. -/
def writeName (name : Octets) : Octets := code '"' :: name ++ [code '"', code ':']

mutual

/-- The canonical text of a value: no blanks, fields and keys in their order. -/
def Shape.write : (s : Shape) → s.Value → Octets
  | .text, (t : String) => quote t
  | .integer, (n : Int64) => writeInt n.toInt
  | .octet, (b : UInt8) => writeInt b.toNat
  | .platform, (p : Platform) => quote p.name
  | .instant, (t : Instant) => quote t.text
  | .list s, (vs : List s.Value) => code '[' :: commaJoined (vs.map s.write) ++ [code ']']
  | .optional _, none => Octets.ofText "null"
  | .optional s, some v => s.write v
  | .keyed s, (m : Keyed s.Value) =>
    code '{' :: commaJoined (m.entries.map fun (k, v) => writeName (writeInt k.toInt) ++ s.write v) ++ [code '}']
  | .record fs, (v : fs.Value) => code '{' :: commaJoined (fs.writeAll v) ++ [code '}']

/-- The canonical texts of the fields of a record, with their names. -/
def Fields.writeAll : (fs : Fields) → fs.Value → List Octets
  | .nil, _ => []
  | .cons name _ s fs, (v, vs) => (quote name ++ code ':' :: s.write v) :: fs.writeAll vs

end

end Courier.Json
