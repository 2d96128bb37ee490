import Courier.Text.Octets

/-!
# Requests and responses

A request carries headers, whose names are compared without regard to case; of several headers with a name the first one
counts, and only when its value is printable. A response carries a body of JSON or of plain text.
-/

namespace Courier.Http

/-- A request to the service. -/
structure Request where
  method : String
  /-- The path with its query. -/
  path : String
  headers : List (String × String)
  body : Octets
  deriving DecidableEq, Repr

/-- What the body of a response holds. -/
inductive ContentType
  | json
  | plain
  deriving DecidableEq, Repr

/-- The name of a content type. -/
def ContentType.name : ContentType → String
  | json => "application/json"
  | plain => "text/plain; charset=utf-8"

/-- A response of the service. -/
structure Response where
  status : Nat
  content : Option ContentType
  /-- The methods that a path allows, when another one was used. -/
  allow : Option String
  body : Octets
  deriving DecidableEq, Repr

/-- A character that stands in the value of a header that is a text. -/
def isPrintable (c : Char) : Bool := c == '\t' || 0x20 ≤ c.toNat && c.toNat ≤ 0x7E

/-- The first value of a header, if it is printable. -/
def Request.header? (r : Request) (name : String) : Option String :=
  match r.headers.find? fun h => h.1.toList.map Char.toLower == name.toList with
  | some (_, v) => if v.toList.all isPrintable then some v else none
  | none => none

namespace Response

/-- A response without a body. -/
def bare (status : Nat) : Response := ⟨status, none, none, []⟩

/-- A response of JSON. -/
def json (status : Nat) (body : Octets) : Response := ⟨status, some .json, none, body⟩

/-- A response of plain text. -/
def plain (status : Nat) (text : String) : Response := ⟨status, some .plain, none, Octets.ofText text⟩

/-- The response without its body, as it answers a request for the headers alone. -/
def withoutBody (r : Response) : Response := { r with body := [] }

end Response

end Courier.Http
