/-!
# Coded tables

Tables over the code points are kept as texts. A number stands in base 26: its last digit is a small letter and the
others are capital letters. Code points are counted from the row before, so that most numbers have one digit.
-/

namespace Courier.Unicode

/-- The numbers in a text; `high` is the value of the digits of the current one so far. -/
def numbersFrom (high : Nat) : List Char → List Nat
  | [] => []
  | c :: cs =>
    if 'a' ≤ c then (high * 26 + (c.toNat - 'a'.toNat)) :: numbersFrom 0 cs
    else numbersFrom (high * 26 + (c.toNat - 'A'.toNat)) cs

/-- The numbers in the lines of a table. -/
def numbers (lines : List String) : List Nat := numbersFrom 0 (lines.flatMap String.toList)

/-- The code points from `first` to `last` belong to a class. -/
structure Span where
  first : Nat
  last : Nat
  kind : Nat
  deriving DecidableEq, Repr

/-- Whether a code point lies in a span. -/
def Span.holds (s : Span) (n : Nat) : Bool := s.first ≤ n && n ≤ s.last

/-- Spans of a single class: how many code points are left out before a span, and how many more than one it has. -/
def spansFrom (start : Nat) : List Nat → List Span
  | gap :: more :: ns => ⟨start + gap, start + gap + more, 1⟩ :: spansFrom (start + gap + more + 1) ns
  | _ => []

/-- Spans of several classes: a span and its class. -/
def kindsFrom (start : Nat) : List Nat → List Span
  | gap :: more :: kind :: ns => ⟨start + gap, start + gap + more, kind⟩ :: kindsFrom (start + gap + more + 1) ns
  | _ => []

/-- The spans of a table of a single class. -/
def spans (lines : List String) : List Span := spansFrom 0 (numbers lines)

/-- The spans of a table of several classes. -/
def kinds (lines : List String) : List Span := kindsFrom 0 (numbers lines)

/-- Whether some span holds a character. -/
def isIn (table : List Span) (c : Char) : Bool := table.any fun s => s.holds c.toNat

/-- The class of a character, zero when no span holds it. -/
def kindOf (table : List Span) (c : Char) : Nat :=
  match table.find? fun s => s.holds c.toNat with
  | some s => s.kind
  | none => 0

/-- A code point and what it is replaced by. -/
abbrev Spelling := Nat × List Char

/-- Spellings: a code point, the length of its spelling, and the spelling. -/
def spellingsFrom (start : Nat) : List Nat → List Spelling
  | gap :: length :: ns =>
    (start + gap, (ns.take length).map Char.ofNat) :: spellingsFrom (start + gap) (ns.drop length)
  | _ => []
termination_by ns => ns.length
decreasing_by simp; omega

/-- The spellings of a table. -/
def spellings (lines : List String) : List Spelling := spellingsFrom 0 (numbers lines)

end Courier.Unicode
