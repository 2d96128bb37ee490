import Courier.Text.Unicode.Canonical

/-!
# The composed normal form

Texts that mean the same to a reader can be spelled in several ways. `normalize` takes a text apart, puts the marks
after each character in order, and composes what can be composed, so that equivalent texts become equal.
-/

namespace Courier.Text

open Unicode

/-! ## Hangul

The syllables of Hangul are composed by arithmetic: a leading consonant, a vowel, and perhaps a trailing consonant. -/

/-- The first syllable. -/
def firstSyllable : Nat := 0xAC00

/-- The first leading consonant. -/
def firstLeading : Nat := 0x1100

/-- The first vowel. -/
def firstVowel : Nat := 0x1161

/-- What stands in front of the first trailing consonant. -/
def beforeTrailing : Nat := 0x11A7

/-- A syllable taken apart. -/
def syllableParts (c : Char) : List Char :=
  let n := c.toNat - firstSyllable
  let trailing := if n % 28 = 0 then [] else [Char.ofNat (beforeTrailing + n % 28)]
  Char.ofNat (firstLeading + n / 588) :: Char.ofNat (firstVowel + n % 588 / 28) :: trailing

/-- A syllable composed of two parts. -/
def composeSyllable? (a b : Char) : Option Char :=
  let l := a.toNat - firstLeading
  let v := b.toNat - firstVowel
  let s := a.toNat - firstSyllable
  let t := b.toNat - beforeTrailing
  if firstLeading ≤ a.toNat ∧ l < 19 ∧ firstVowel ≤ b.toNat ∧ v < 21 then
    some (Char.ofNat (firstSyllable + (l * 21 + v) * 28))
  else if firstSyllable ≤ a.toNat ∧ s < 11172 ∧ s % 28 = 0 ∧ beforeTrailing < b.toNat ∧ t < 28 then
    some (Char.ofNat (a.toNat + t))
  else none

/-! ## Taking apart -/

/-- The two characters that a character is composed of. -/
def parts? (c : Char) : Option (Char × Char) := composites.lookup c.toNat

/-- How often a composite can be taken apart. -/
def depth : Nat := 4

/-- A character taken apart at most so often. -/
def takenApart : Nat → Char → List Char
  | 0, c => [c]
  | n + 1, c =>
    match parts? c with
    | some (a, b) => takenApart n a ++ [b]
    | none => (replacements.lookup c.toNat).getD [c]

/-- A character taken apart as far as it goes. -/
def decompose (c : Char) : List Char :=
  if c.toNat < 0xC0 then [c]
  else if firstSyllable ≤ c.toNat ∧ c.toNat < firstSyllable + 11172 then syllableParts c
  else takenApart depth c

/-! ## Order -/

/-- Puts a character behind others, which are given last first. A mark moves in front of marks of higher classes. -/
def putMark (c : Char) : List Char → List Char
  | [] => [c]
  | d :: ds =>
    if combiningClass c ≠ 0 ∧ combiningClass c < combiningClass d then d :: putMark c ds else c :: d :: ds

/-- Characters with their marks in order. -/
def ordered (cs : List Char) : List Char := (cs.foldl (fun done c => putMark c done) []).reverse

/-! ## Composing -/

/-- What two characters are composed to. -/
def composed? (a b : Char) : Option Char :=
  match composeSyllable? a b with
  | some c => some c
  | none => (composites.find? fun p => p.2 == (a, b)).map fun p => Char.ofNat p.1

/-- What has been composed so far. -/
structure Composing where
  /-- What comes before the character that can still be composed, last first. -/
  done : List Char
  /-- The character that can still be composed. -/
  base : Option Char
  /-- The marks behind it that are not composed with it, last first. -/
  marks : List Char

namespace Composing

/-- The characters so far, last first. -/
def all (s : Composing) : List Char := s.marks ++ s.base.toList ++ s.done

/-- Goes on to a character that is not composed with the ones before. -/
def append (s : Composing) (c : Char) : Composing :=
  if combiningClass c = 0 then ⟨s.all, some c, []⟩ else { s with marks := c :: s.marks }

/-- Whether no mark stands between the base and a character that goes with it. -/
def reaches (s : Composing) (c : Char) : Bool :=
  match s.marks with
  | [] => true
  | m :: _ => combiningClass m < combiningClass c

/-- Goes on to a character. -/
def step (s : Composing) (c : Char) : Composing :=
  match s.base with
  | none => s.append c
  | some b =>
    match if s.reaches c then composed? b c else none with
    | some d => { s with base := some d }
    | none => s.append c

end Composing

/-- Ordered characters composed. -/
def composedAll (cs : List Char) : List Char := (cs.foldl Composing.step ⟨[], none, []⟩).all.reverse

/-- The composed normal form. -/
def normalize (cs : List Char) : List Char :=
  if cs.all (fun c => c.toNat < 0xC0) then cs else composedAll (ordered (cs.flatMap decompose))

end Courier.Text
