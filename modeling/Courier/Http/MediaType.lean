/-!
# Media types

A media type is a type and a subtype, and perhaps parameters: names with values that are tokens or stand between quotes.
A subtype can have a suffix after its last plus sign. The case of letters does not count.
-/

namespace Courier.Http

/-- The code points of the characters that stand in tokens beside letters and digits. -/
def tokenMarks : List Nat :=
  [0x21, 0x23, 0x24, 0x25, 0x26, 0x27, 0x2A, 0x2B, 0x2D, 0x2E, 0x5E, 0x5F, 0x60, 0x7C, 0x7E]

/-- A character that stands in tokens. -/
def isTokenChar (c : Char) : Bool := c.isAlphanum || tokenMarks.contains c.toNat

/-- A type and a subtype. -/
structure MediaType where
  type : List Char
  /-- The subtype up to its last plus sign. -/
  subtype : List Char
  /-- The subtype after its last plus sign. -/
  suffix : Option (List Char)
  deriving DecidableEq, Repr

namespace MediaType

/-- What follows a value between quotes: blanks, and then the end or another parameter. -/
def afterQuote (cs : List Char) : Option (List Char) :=
  match cs.dropWhile (· == ' ') with
  | [] => some []
  | c :: rest => if c = ';' then some rest else none

/-- A character that stands between quotes. -/
def isQuotedChar (c : Char) : Bool := 31 < c.toNat && c.toNat ≠ 127

/-- What follows the value of a parameter. -/
def afterValue (cs : List Char) : Option (List Char) :=
  match cs with
  | '"' :: cs =>
    match cs with
    | [] => none
    | c :: cs =>
      if isQuotedChar c then
        let rest := cs.dropWhile fun d => isQuotedChar d && d != '"'
        match rest with
        | '"' :: rest => afterQuote rest
        | _ => none
      else none
  | cs =>
    let value := cs.takeWhile isTokenChar
    match cs.dropWhile isTokenChar with
    | [] => some []
    | c :: rest => if c = ';' && !value.isEmpty then some rest else none

/-- Whether some text consists of parameters; the bound exceeds their number. -/
def areParameters : Nat → List Char → Bool
  | 0, _ => false
  | n + 1, cs =>
    match cs.dropWhile (· == ' ') with
    | [] => true
    | cs =>
      if (cs.takeWhile isTokenChar).isEmpty then false
      else
        match cs.dropWhile isTokenChar with
        | '=' :: rest =>
          match afterValue rest with
          | some rest => areParameters n rest
          | none => false
        | _ => false

/-- A subtype with or without a suffix. -/
def ofParts (type subtype : List Char) : MediaType :=
  let back := subtype.reverse
  let tail := back.takeWhile (· != '+')
  match back.dropWhile (· != '+') with
  | _ :: c :: front => ⟨type, (c :: front).reverse, some tail.reverse⟩
  | _ => ⟨type, subtype, none⟩

/-- The media type that a text denotes. -/
def parse? (s : String) : Option MediaType :=
  let cs := s.toList
  let type := cs.takeWhile isTokenChar
  match cs.dropWhile isTokenChar with
  | '/' :: rest =>
    let subtype := rest.takeWhile isTokenChar
    let lower (cs : List Char) : List Char := cs.map Char.toLower
    if type.isEmpty || subtype.isEmpty && !rest.isEmpty then none
    else
      match rest.dropWhile isTokenChar with
      | [] => some (ofParts (lower type) (lower subtype))
      | c :: rest =>
        if c = ';' && areParameters (rest.length + 1) rest then some (ofParts (lower type) (lower subtype)) else none
  | _ => none

/-- Whether a text of this type is JSON. -/
def isJson (m : MediaType) : Bool :=
  m.type == "application".toList && (m.subtype == "json".toList || m.suffix == some "json".toList)

end MediaType

end Courier.Http
