import Courier.Text.Decimal

/-!
# Addresses

The host of a URL can be an address instead of a name. An address of 32 bits has up to four numbers between dots, in
decimal, octal or hexadecimal digits, and the last one fills what the others leave. An address of 128 bits has eight
pieces of 16 bits between colons; one run of zeros can be left out, and the last two pieces can be written as a short
address.
-/

namespace Courier.Http.Address

/-- The value of a hexadecimal digit. -/
def hexDigit? (c : Char) : Option Nat :=
  if c.isDigit then some (c.toNat - 0x30)
  else if 'a' ≤ c ∧ c ≤ 'f' then some (c.toNat - 0x57)
  else if 'A' ≤ c ∧ c ≤ 'F' then some (c.toNat - 0x37)
  else none

/-- The value of a digit in some base. -/
def digit? (base : Nat) (c : Char) : Option Nat := (hexDigit? c).filter (· < base)

/-- The number that digits in some base denote; none at all denote zero. -/
def number? (base : Nat) (cs : List Char) : Option Nat :=
  cs.foldlM (fun n c => (digit? base c).map (n * base + ·)) 0

/-- The pieces of a text between separators; `done` holds the current piece, last character first. -/
def piecesFrom (separator : Char) (done : List Char) : List Char → List (List Char)
  | [] => [done.reverse]
  | c :: cs =>
    if c = separator then done.reverse :: piecesFrom separator [] cs else piecesFrom separator (c :: done) cs

/-! ## Short addresses -/

/-- A number in a short address. -/
def part? (cs : List Char) : Option Nat :=
  match cs with
  | [] => none
  | '0' :: 'x' :: ds => number? 16 ds
  | '0' :: 'X' :: ds => number? 16 ds
  | '0' :: d :: ds => number? 8 (d :: ds)
  | ds => number? 10 ds

/-- The pieces of a host between dots. A dot at the end does not count. -/
def shortParts (host : List Char) : List (List Char) :=
  let ps := piecesFrom '.' [] host
  if 1 < ps.length ∧ ps.getLast? = some [] then ps.dropLast else ps

/-- Whether a host has to be a short address: whether it ends in a number. -/
def isShort (host : List Char) : Bool :=
  match (shortParts host).getLast? with
  | some p => !p.isEmpty && p.all Char.isDigit || (part? p).isSome
  | none => false

/-- The address of numbers, the last of which fills the rest; `room` is what there is room for. -/
def fill? (room : Nat) : List Nat → Option Nat
  | [] => none
  | [n] => if n < room then some n else none
  | n :: ns => do
    guard (n < 256)
    let room := room / 256
    some (n * room + (← fill? room ns))

/-- A short address. -/
def short? (host : List Char) : Option Nat := do
  let ps := shortParts host
  guard (ps.length ≤ 4)
  fill? 0x100000000 (← ps.mapM part?)

/-- A short address as a text. -/
def shortText (n : Nat) : String :=
  ".".intercalate ([n / 0x1000000, n / 0x10000 % 256, n / 0x100 % 256, n % 256].map Decimal.ofNat)

/-! ## Long addresses -/

/-- A piece of a long address: one to four hexadecimal digits. -/
def piece? (cs : List Char) : Option Nat := if cs = [] ∨ 4 < cs.length then none else number? 16 cs

/-- A number below 256 without superfluous zeros. -/
def byte? (cs : List Char) : Option Nat :=
  match cs with
  | [] => none
  | '0' :: _ :: _ => none
  | cs => (number? 10 cs).filter (· < 256)

/-- The two pieces of a short address at the end of a long one. -/
def tail? (cs : List Char) : Option (List Nat) := do
  match ← (piecesFrom '.' [] cs).mapM byte? with
  | [a, b, c, d] => some [a * 256 + b, c * 256 + d]
  | _ => none

/-- The pieces of a part of a long address. A short address can stand at its end. -/
def run? : List (List Char) → Option (List Nat)
  | [] => some []
  | [cs] => if cs.contains '.' then tail? cs else (piece? cs).map ([·])
  | cs :: rest => do
    let p ← piece? cs
    some (p :: (← run? rest))

/-- Splits a text at the first two colons in a row. -/
def splitGap (done : List Char) : List Char → Option (List Char × List Char)
  | ':' :: ':' :: cs => some (done.reverse, cs)
  | c :: cs => splitGap (c :: done) cs
  | [] => none

/-- The pieces of a part of a long address that may be empty. -/
def side? (cs : List Char) : Option (List Nat) := if cs = [] then some [] else run? (piecesFrom ':' [] cs)

/-- The eight pieces of a long address. -/
def long? (cs : List Char) : Option (List Nat) := do
  match splitGap [] cs with
  | none =>
    let ps ← side? cs
    guard (ps.length = 8)
    some ps
  | some (front, back) =>
    guard (!front.contains '.')
    let ps ← side? front
    let qs ← side? back
    guard (ps.length + qs.length ≤ 7)
    some (ps ++ List.replicate (8 - ps.length - qs.length) 0 ++ qs)

/-- How many zeros stand in front. -/
def zeros (ps : List Nat) : Nat := (ps.takeWhile (· == 0)).length

/-- Where the longest run of zeros begins and how long it is; of two of a length the first. -/
def longestZeros : List Nat → Nat × Nat
  | [] => (0, 0)
  | p :: ps =>
    let here := zeros (p :: ps)
    let (start, length) := longestZeros ps
    if length ≤ here then (0, here) else (start + 1, length)

/-- A number in hexadecimal digits. -/
def hexText (n : Nat) : String := String.ofList (Nat.toDigits 16 n)

/-- Pieces between colons. -/
def piecesText (ps : List Nat) : String := ":".intercalate (ps.map hexText)

/-- A long address as a text, its longest run of two or more zeros left out. -/
def longText (ps : List Nat) : String :=
  let (start, length) := longestZeros ps
  if length < 2 then piecesText ps
  else piecesText (ps.take start) ++ "::" ++ piecesText (ps.drop (start + length))

end Courier.Http.Address
