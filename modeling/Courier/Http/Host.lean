import Courier.Http.Address
import Courier.Http.DomainName
import Courier.Http.Percent
import Courier.Text.Octets

/-!
# Hosts

What a URL says about where to go: a name or an address. In the URLs of the web a host is a domain name, and one that
ends in a number is an address. In other URLs a host is any text without characters that mean something in a URL.
-/

namespace Courier.Http

/-- Where a URL leads. -/
inductive Host
  | name (text : String)
  /-- An address of 32 bits. -/
  | short (address : Nat)
  /-- The eight pieces of an address of 128 bits. -/
  | long (pieces : List Nat)
  deriving DecidableEq, Repr

/-- A control character, or one beyond ASCII. -/
def isControl (c : Char) : Bool := c.toNat < 0x20 || 0x7E < c.toNat

namespace Host

/-- A host as a text. -/
def text : Host → String
  | name t => t
  | short a => Address.shortText a
  | long ps => "[" ++ Address.longText ps ++ "]"

/-- The long address between brackets. -/
def bracketed? (cs : List Char) : Option Host := do
  guard (cs.getLast? == some ']')
  return .long (← Address.long? (cs.drop 1).dropLast)

/-- A host of the web. -/
def ofWeb? (cs : List Char) : Option Host :=
  match cs with
  | '[' :: _ => bracketed? cs
  | _ => do
    let decoded ← Octets.text? (percentDecode (Octets.ofText (String.ofList cs)))
    let name ← DomainName.toAscii? decoded.toList
    guard (name ≠ [])
    if Address.isShort name then return .short (← Address.short? name) else return .name (String.ofList name)

/-- A character that means something in a URL. -/
def isReserved (c : Char) : Bool :=
  ['\x00', '\t', '\n', '\r', ' ', '#', '/', ':', '<', '>', '?', '@', '[', '\\', ']', '^', '|'].contains c

/-- A host of another kind. -/
def ofText? (cs : List Char) : Option Host :=
  match cs with
  | '[' :: _ => bracketed? cs
  | _ => if cs.any isReserved then none else some (.name (String.ofList (percentEncode isControl cs)))

/-- Whether a host can stand in a request. -/
def isSendable : Host → Bool
  | name t => !t.toList.any fun c => [0x22, 0x60, 0x7B, 0x7D].contains c.toNat
  | _ => true

end Host

end Courier.Http
