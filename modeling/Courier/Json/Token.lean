import Courier.Text.Octets

/-!
# Tokens of JSON text

JSON is read from left to right, octet by octet, and reading stops at the first problem. This module holds the three
kinds of problem, the readers of single tokens, the loops over the elements of a list and the members of an object, and
the commas between texts that are written one after another.
-/

namespace Courier

/-- The octet of an ASCII character. -/
abbrev code (c : Char) : UInt8 := c.toNat.toUInt8

namespace Json

/-- What can be wrong with a text at the place where reading stops. -/
inductive Problem
  /-- Well-formed so far, but not of the wanted kind. -/
  | mismatch
  /-- Not JSON, whatever follows. -/
  | malformed
  /-- The text ends too early. -/
  | truncated
  deriving DecidableEq, Repr

/-- Takes octets from the front of a text; the result carries what is left. -/
abbrev Reader (α : Type) := StateT Octets (Except Problem) α

/-- The four octets that may stand between tokens. -/
def isBlank (b : UInt8) : Bool := b == 0x20 || b == 0x0A || b == 0x09 || b == 0x0D

/-- One of the ten digits. -/
def isDigit (b : UInt8) : Bool := 0x30 ≤ b && b ≤ 0x39

/-- The text from its first octet that is no blank. -/
def skipBlanks (s : Octets) : Octets := s.dropWhile isBlank

/-- Stops with a problem. -/
def fail {α : Type} (p : Problem) : Reader α := fun _ => .error p

/-- Skips blanks and looks at the next octet, which is not taken. -/
def next : Reader UInt8 := fun s =>
  match skipBlanks s with
  | [] => .error .truncated
  | b :: r => .ok (b, b :: r)

/-- Takes one octet. -/
def advance : Reader Unit := fun s => .ok ((), s.tail)

/-- Skips blanks and takes the given octet; any other one is malformed. -/
def expect (b : UInt8) : Reader Unit := do
  if (← next) == b then advance else fail .malformed

/-- Takes the given octets, the rest of a literal such as `null`. -/
def literal : Octets → Octets → Except Problem (Unit × Octets)
  | [], s => .ok ((), s)
  | _ :: _, [] => .error .truncated
  | k :: ks, b :: s => if b == k then literal ks s else .error .malformed

/-- Whether another element of a list follows. It is left at the element, or at the closing bracket. -/
def hasElement (first : Bool) : Reader Bool := do
  let b ← next
  if b == code ']' then pure false
  else if first then pure true
  else if b == code ',' then do
    advance
    if (← next) == code ']' then fail .malformed else pure true
  else fail .malformed

/-- Whether another member of an object follows. It is left at the quote of its name, or at the closing brace. -/
def hasMember (first : Bool) : Reader Bool := do
  let b ← next
  if b == code '}' then pure false
  else if first then if b == code '"' then pure true else fail .malformed
  else if b == code ',' then do
    advance
    if (← next) == code '"' then pure true else fail .malformed
  else fail .malformed

/-- What bounds the steps of a reader: one step for each octet. Any text that is longer than the one being read is bound
enough, so the text itself with one more octet in front of it is taken. -/
abbrev Bound := Octets

/-- A bound for reading a text. -/
def boundOf (s : Octets) : Bound := 0 :: s

/-- The elements of a list up to its closing bracket, which is not taken. -/
def elements {α : Type} (item : Reader α) : Bound → Bool → List α → Reader (List α)
  | [], _, _ => fail .truncated
  | _ :: n, first, done => do
    if ← hasElement first then elements item n false ((← item) :: done) else pure done.reverse

/-- Feeds the members of an object to an accumulator, up to the closing brace, which is not taken. -/
def members {σ : Type} (member : σ → Reader σ) : Bound → Bool → σ → Reader σ
  | [], _, _ => fail .truncated
  | _ :: n, first, acc => do
    if ← hasMember first then members member n false (← member acc) else pure acc

/-- The elements of a list after its opening bracket. -/
def allElements {α : Type} (item : Reader α) : Reader (List α) := fun s => elements item (boundOf s) true [] s

/-- The members of an object after its opening brace. -/
def allMembers {σ : Type} (member : σ → Reader σ) (start : σ) : Reader σ := fun s =>
  members member (boundOf s) true start s

/-- Reads a whole text: a value, and nothing but blanks after it. -/
def whole {α : Type} (r : Reader α) (s : Octets) : Except Problem α :=
  match r s with
  | .error p => .error p
  | .ok (a, rest) => if skipBlanks rest = [] then .ok a else .error .malformed

/-- Texts one after another, commas between them. -/
def commaJoined : List Octets → Octets
  | [] => []
  | [o] => o
  | o :: os => o ++ code ',' :: commaJoined os

end Json

end Courier
