import Courier.Json.Skip

/-!
# JSON values

A JSON value of any kind as a tree. Numbers keep the characters that they are written with, and objects the order of
their members.
-/

namespace Courier

/-- A JSON value. -/
inductive Json
  | null
  | bool (b : Bool)
  /-- A number, as it is written. -/
  | number (literal : Octets)
  | text (s : String)
  | list (items : List Json)
  | object (members : List (String × Json))
  deriving Inhabited

namespace Json

mutual

/-- The text of a value, without blanks. -/
def write : Json → Octets
  | null => Octets.ofText "null"
  | bool b => Octets.ofText (if b then "true" else "false")
  | number l => l
  | text s => quote s
  | list vs => code '[' :: commaJoined (writeItems vs) ++ [code ']']
  | object ms => code '{' :: commaJoined (writeMembers ms) ++ [code '}']

/-- The texts of the elements of a list. -/
def writeItems : List Json → List Octets
  | [] => []
  | v :: vs => write v :: writeItems vs

/-- The texts of the members of an object. -/
def writeMembers : List (String × Json) → List Octets
  | [] => []
  | (k, v) :: ms => (quote k ++ code ':' :: write v) :: writeMembers ms

end

/-- The octets that a reader takes. -/
def taken (r : Reader Unit) : Reader Octets := fun s =>
  match r s with
  | .ok ((), rest) => .ok (s.take (s.length - rest.length), rest)
  | .error p => .error p

/-- Reads a value after any blanks. -/
def readValue : Bound → Reader Json
  | [] => fail .truncated
  | _ :: n => do
    let b ← next
    if b == code 'n' then do advance; literal [code 'u', code 'l', code 'l']; pure null
    else if b == code 't' then do advance; literal [code 'r', code 'u', code 'e']; pure (bool true)
    else if b == code 'f' then do advance; literal [code 'a', code 'l', code 's', code 'e']; pure (bool false)
    else if beginsNumeral b then return number (← taken (discard numeral))
    else if b == code '"' then do advance; return text (← unquote)
    else if b == code '[' then do
      advance
      let items ← elements (readValue n) n true []
      expect (code ']')
      pure (list items)
    else if b == code '{' then do
      advance
      let ms ← members (fun ms => do
        advance
        let name ← unquote
        expect (code ':')
        return (name, ← readValue n) :: ms) n true []
      expect (code '}')
      pure (object ms.reverse)
    else fail .malformed

/-- Reads a value after any blanks. It has fewer levels, and fewer parts at each, than octets. -/
def read : Reader Json := fun s => readValue (boundOf s) s

/-- Reads a whole text. -/
def parse (s : Octets) : Except Problem Json := whole read s

/-- The value of the last member with a name. -/
def member? (name : String) : Json → Option Json
  | object ms => (ms.reverse.find? fun m => m.1 == name).map Prod.snd
  | _ => none

/-- Puts a member at its place by name; a member of that name gives way. -/
def placeMember (m : String × Json) : List (String × Json) → List (String × Json)
  | [] => [m]
  | l :: ms => if m.1 < l.1 then m :: l :: ms else if m.1 = l.1 then m :: ms else l :: placeMember m ms

mutual

/-- The value with its numbers in canonical form and the members of every object in the order of their names, the last
of each name alone. -/
def canonical : Json → Json
  | number l => number (canonicalNumeral l)
  | list vs => list (canonicalItems vs)
  | object ms => object (canonicalMembers ms)
  | v => v

/-- The elements of a list in canonical form. -/
def canonicalItems : List Json → List Json
  | [] => []
  | v :: vs => canonical v :: canonicalItems vs

/-- The members of an object in the order of their names. -/
def canonicalMembers (ms : List (String × Json)) : List (String × Json) := placeMembers [] ms

/-- Places the members of an object, each in canonical form, among those already placed. -/
def placeMembers (done : List (String × Json)) : List (String × Json) → List (String × Json)
  | [] => done
  | (k, v) :: ms => placeMembers (placeMember (k, canonical v) done) ms

end

end Json

end Courier
