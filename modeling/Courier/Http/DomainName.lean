import Courier.Text.Normal
import Courier.Text.Punycode
import Courier.Text.Unicode.Folding
import Courier.Text.Unicode.Joining

/-!
# Domain names

The name of a host is folded, brought into the composed normal form and cut into labels at its dots. A label of ASCII
characters stands for itself. Any other one is written in Punycode behind `xn--`, and a label that comes in that form
has to be the one that would be written for it. A name in which some characters are written from right to left has to
read unambiguously.
-/

namespace Courier.Http.DomainName

open Unicode

/-- What a label that is written in Punycode begins with. -/
def mark : List Char := ['x', 'n', '-', '-']

/-- The longest label behind its mark that is decoded. -/
def longestEncoded : Nat := 2000

/-- The longest label that is encoded. -/
def longestDecoded : Nat := 1000

/-- An ASCII character that may not stand in a name. -/
def forbidden (c : Char) : Bool :=
  c.toNat ≤ 0x20 || c.toNat == 0x7F ||
    ['%', '#', '/', ':', '<', '>', '?', '@', '[', '\\', ']', '^', '|'].contains c

/-- A character beyond ASCII. -/
def isWide (c : Char) : Bool := 0x80 ≤ c.toNat

/-- The characters of a name folded, each after it has been taken apart, and composed again. -/
def folded? (cs : List Char) : Option (List Char) :=
  if cs.any isWide then do
    let parts ← (cs.flatMap Text.decompose).mapM foldChar?
    some (Text.normalize parts.flatten)
  else some (cs.map Char.toLower)

/-- The pieces of a name between dots; `done` holds the current piece, last character first. -/
def labelsFrom (done : List Char) : List Char → List (List Char)
  | [] => [done.reverse]
  | c :: cs => if c = '.' then done.reverse :: labelsFrom [] cs else labelsFrom (c :: done) cs

/-- The pieces of a name between dots. -/
def labels (cs : List Char) : List (List Char) := labelsFrom [] cs

/-! ## Single labels -/

/-- Whether the nearest character that is not transparent joins in one of the given ways. -/
def meets (ways : List Joining) (cs : List Char) : Bool :=
  match cs.find? fun c => joining c ≠ .transparent with
  | some c => ways.contains (joining c)
  | none => false

/-- The combining class of the marks that take the vowel of a letter away. -/
def virama : Nat := 9

/-- The character that keeps its neighbours from joining. -/
def nonJoiner : Nat := 0x200C

/-- The character that makes its neighbours join. -/
def joiner : Nat := 0x200D

/-- Whether joiners stand only where they change how a label looks; `before` holds the characters passed, last first. A
joiner needs a mark that takes a vowel away in front of it, and for one that keeps letters apart these may also be
letters that would join. -/
def joinersFit (before : List Char) : List Char → Bool
  | [] => true
  | c :: cs =>
    let fits :=
      if c.toNat = nonJoiner ∨ c.toNat = joiner then
        before.head?.any (fun b => combiningClass b == virama) ||
          c.toNat == nonJoiner && meets [.onward, .both] before && meets [.backward, .both] cs
      else true
    fits && joinersFit (c :: before) cs

/-- A label that does not begin with a mark, has joiners only where they fit, and is not too long. -/
def wellFormed (label : List Char) : Bool :=
  !label.head?.any isMark && joinersFit [] label && (!label.any isWide || label.length ≤ longestDecoded)

/-- The characters that an encoded label stands for. -/
def decoded? (label : List Char) : Option (List Char) := do
  let code := label.drop mark.length
  guard (!label.any isWide && label.getLast? ≠ some '-' && code.length ≤ longestEncoded)
  let cs ← Punycode.decode? code
  guard (folded? cs == some cs && !cs.any fun c => c == '.' || forbidden c)
  some cs

/-- A label as it is read and as it is written. -/
structure Label where
  chars : List Char
  written : List Char
  deriving DecidableEq, Repr

/-- A label of folded characters. -/
def label? (cs : List Char) : Option Label := do
  if mark.isPrefixOf cs then
    let chars ← decoded? cs
    guard (wellFormed chars)
    some ⟨chars, cs⟩
  else
    guard (!cs.any forbidden && (!cs.any isWide || wellFormed cs))
    some ⟨cs, if cs.any isWide then mark ++ Punycode.encode cs else cs⟩

/-! ## Direction -/

/-- A character that makes the direction of a whole name matter. -/
def turns (c : Char) : Bool := isWide c && [.rightToLeft, .arabicDigit].contains (direction c)

/-- Whether a label reads unambiguously among labels of both directions. -/
def readsOneWay (label : List Char) : Bool :=
  let directions := label.map direction
  match directions with
  | [] => true
  | first :: rest =>
    let core := (rest.reverse.dropWhile (· == .attached)).reverse
    let last := core.getLast?.getD first
    match first with
    | .leftToRight =>
      [.leftToRight, .europeanDigit].contains last &&
        core.all [.leftToRight, .europeanDigit, .neutral, .attached].contains
    | .rightToLeft =>
      [.rightToLeft, .europeanDigit, .arabicDigit].contains last &&
        core.all [.rightToLeft, .europeanDigit, .arabicDigit, .neutral, .attached].contains &&
        !(core.contains .europeanDigit && core.contains .arabicDigit)
    | _ => false

/-! ## Names -/

/-- The written form of labels. -/
def join : List (List Char) → List Char
  | [] => []
  | [l] => l
  | l :: ls => l ++ '.' :: join ls

/-- A name in ASCII characters. -/
def toAscii? (cs : List Char) : Option (List Char) := do
  let ls ← (labels (← folded? cs)).mapM label?
  guard (!ls.any (fun l => l.chars.any turns) || ls.all fun l => readsOneWay l.chars)
  some (join (ls.map Label.written))

end Courier.Http.DomainName
