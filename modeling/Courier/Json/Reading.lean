import Courier.Json.Shape
import Courier.Json.Skip

/-!
# Reading values by shape

`Shape.read` takes a value of a shape from the front of a text, and `Shape.decode` reads a whole text. A record is an
object with its fields in any order and others among them, or a list of its fields in order. A field that occurs twice
is a mismatch at its second name; a field that is missing is one at the end of the object.
-/

namespace Courier.Json

/-- A value of another kind stands here: a mismatch, unless the value's first token is itself at fault. -/
def mismatched {α : Type} : Reader α := do
  let b ← next
  if b == code 'n' then do advance; literal [code 'u', code 'l', code 'l']; fail .mismatch
  else if b == code 't' then do advance; literal [code 'r', code 'u', code 'e']; fail .mismatch
  else if b == code 'f' then do advance; literal [code 'a', code 'l', code 's', code 'e']; fail .mismatch
  else if beginsNumeral b then do discard numeral; fail .mismatch
  else if b == code '"' then do advance; discard unquote; fail .mismatch
  else if b == code '[' || b == code '{' then fail .mismatch
  else fail .malformed

/-- Reads a text. -/
def readText : Reader String := do
  if (← next) == code '"' then do advance; unquote else mismatched

/-- Reads a whole number in some range. -/
def readWhole {α : Type} (fit : Int → Option α) : Reader α := do
  if beginsNumeral (← next) then
    match ← numeral with
    | .whole n =>
      match fit n with
      | some a => pure a
      | none => fail .mismatch
    | .fractional _ _ => fail .mismatch
  else mismatched

/-- A whole number as an octet. -/
def toOctet? (n : Int) : Option UInt8 := if 0 ≤ n ∧ n < 256 then some n.toNat.toUInt8 else none

/-- Reads `null`. -/
def readNull : Reader Unit := do
  if (← next) == code 'n' then do advance; literal [code 'u', code 'l', code 'l'] else mismatched

/-- The platform with a name; another name is a mismatch. -/
def platformNamed (s : String) : Reader Platform :=
  match Platform.ofName? s with
  | some p => pure p
  | none => fail .mismatch

/-- Reads a platform: its name, or an object whose only member has that name and the value `null`. -/
def readPlatform : Reader Platform := do
  let b ← next
  if b == code '"' then do advance; platformNamed (← unquote)
  else if b == code '{' then do
    advance
    expect (code '"')
    let p ← platformNamed (← unquote)
    expect (code ':')
    readNull
    expect (code '}')
    pure p
  else fail .malformed

/-- Reads an instant: a text that denotes one. -/
def readInstant : Reader Instant := do
  match Instant.parse? (← readText) with
  | some t => pure t
  | none => fail .mismatch

/-- Reads a list. -/
def readList {α : Type} (item : Reader α) : Reader (List α) := do
  if (← next) == code '[' then do
    advance
    let items ← allElements item
    expect (code ']')
    pure items
  else mismatched

/-- Reads a value or `null`. -/
def readOptional {α : Type} (item : Reader α) : Reader (Option α) := fun s =>
  match skipBlanks s with
  | b :: r =>
    if b == code 'n' then (literal [code 'u', code 'l', code 'l'] r).map fun (_, r) => (none, r)
    else (item s).map fun (a, r) => (some a, r)
  | [] => (item s).map fun (a, r) => (some a, r)

/-- Reads a whole number between quotes, at the opening one: the name of a member of a keyed collection. -/
def readKey : Reader Int64 := do
  advance
  let k ← fun s =>
    match s with
    | b :: _ => if beginsNumeral b then readWhole Decimal.toInt64? s else .error .malformed
    | [] => .error .malformed
  fun s =>
    match s with
    | b :: s => if b == code '"' then .ok (k, s) else .error .malformed
    | [] => .error .malformed

/-- Reads an object whose names are whole numbers; a later member takes the place of an earlier one. -/
def readKeyed {α : Type} (item : Reader α) : Reader (Keyed α) := do
  if (← next) == code '{' then do
    advance
    let m ← allMembers (fun (m : Keyed α) => do
      let k ← readKey
      expect (code ':')
      pure (m.insert k (← item))) Keyed.empty
    expect (code '}')
    pure m
  else mismatched

/-- The values of the fields of a record that have been read so far. -/
def Fields.Slots : Fields → Type
  | .nil => Unit
  | .cons _ _ s fs => Option s.Value × fs.Slots

/-- No field has been read. -/
def Fields.blank : (fs : Fields) → fs.Slots
  | .nil => ()
  | .cons _ _ _ fs => (none, fs.blank)

/-- The value of a field that is left out, if it may be. -/
def Shape.whenAbsent (s : Shape) (allowed : Bool) : Reader s.Value :=
  match allowed, s.empty? with
  | true, some v => pure v
  | _, _ => fail .mismatch

/-- The record of the fields that have been read, at the end of the object. -/
def Fields.complete : (fs : Fields) → fs.Slots → Reader fs.Value
  | .nil, _ => pure ()
  | .cons _ absence s fs, (slot, slots) => do
    let v : s.Value ← match slot with
      | some v => pure v
      | none => s.whenAbsent (absence != .refused)
    let vs ← fs.complete slots
    pure (v, vs)

/-- Reads an object or a list in the place of a record. -/
def readRecord {σ α : Type} (member : String → σ → Option (Reader σ)) (start : σ) (complete : σ → Reader α)
    (inOrder : Bool → Reader α) : Reader α := do
  let b ← next
  if b == code '{' then do
    advance
    let slots ← allMembers (fun slots => do
      advance
      match member (← unquote) slots with
      | some r => r
      | none => do
        expect (code ':')
        skip
        pure slots) start
    let v ← complete slots
    expect (code '}')
    pure v
  else if b == code '[' then do
    advance
    let v ← inOrder true
    expect (code ']')
    pure v
  else mismatched

mutual

/-- Reads a value of a shape, after any blanks. -/
def Shape.read : (s : Shape) → Reader s.Value
  | .text => readText
  | .integer => readWhole Decimal.toInt64?
  | .octet => readWhole toOctet?
  | .platform => readPlatform
  | .instant => readInstant
  | .list s => readList s.read
  | .optional s => readOptional s.read
  | .keyed s => readKeyed s.read
  | .record fs => readRecord fs.member fs.blank fs.complete fs.inOrder

/-- Reads the rest of the member with a name into its slot; none when no field has that name. -/
def Fields.member : (fs : Fields) → String → fs.Slots → Option (Reader fs.Slots)
  | .nil, _, _ => none
  | .cons name _ s fs, key, (slot, slots) =>
    if key = name then
      some (match slot with
        | some _ => fail .mismatch
        | none => do
          expect (code ':')
          let v ← s.read
          pure (some v, slots))
    else
      match fs.member key slots with
      | some r => some (do let slots ← r; pure (slot, slots))
      | none => none

/-- Reads the fields of a record from a list, in their order. -/
def Fields.inOrder : (fs : Fields) → Bool → Reader fs.Value
  | .nil, _ => pure ()
  | .cons _ absence s fs, first => do
    if ← hasElement first then
      let v ← s.read
      let vs ← fs.inOrder false
      pure (v, vs)
    else
      let v ← s.whenAbsent (absence == .anywhere)
      let vs ← fs.inOrder first
      pure (v, vs)

end

/-- Reads a whole text as a value of a shape. -/
def Shape.decode (s : Shape) (text : Octets) : Except Problem s.Value := whole s.read text

end Courier.Json
