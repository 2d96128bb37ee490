import Courier.Json.Token

/-!
# Quoted texts

A text in JSON stands between quotes. Written, only quotes, backslashes and the control characters below 32 are
escaped, and everything else stands for itself. Read, every escape of the standard is taken, surrogates only as pairs,
and the octets must be valid UTF-8 once the closing quote is reached.
-/

namespace Courier.Json

/-! ## Writing -/

/-- A hexadecimal digit below 16, in lower case. -/
def hexDigit (n : Nat) : UInt8 := if n < 10 then (0x30 + n).toUInt8 else (0x57 + n).toUInt8

/-- The octets that stand for one octet of a text between quotes. -/
def escapeOctet (b : UInt8) : Octets :=
  if b == code '"' then [code '\\', code '"']
  else if b == code '\\' then [code '\\', code '\\']
  else if b == 0x08 then [code '\\', code 'b']
  else if b == 0x0C then [code '\\', code 'f']
  else if b == 0x0A then [code '\\', code 'n']
  else if b == 0x0D then [code '\\', code 'r']
  else if b == 0x09 then [code '\\', code 't']
  else if b < 0x20 then
    [code '\\', code 'u', code '0', code '0', hexDigit (b.toNat / 16), hexDigit (b.toNat % 16)]
  else [b]

/-- A text between quotes. -/
def quote (s : String) : Octets := code '"' :: (Octets.ofText s).flatMap escapeOctet ++ [code '"']

/-! ## Reading -/

/-- The value of a hexadecimal digit in either case. -/
def hexValue (b : UInt8) : Option Nat :=
  if isDigit b then some (b.toNat - 0x30)
  else if 0x41 ≤ b && b ≤ 0x46 then some (b.toNat - 0x37)
  else if 0x61 ≤ b && b ≤ 0x66 then some (b.toNat - 0x57)
  else none

/-- Four hexadecimal digits. -/
def hexWord : Octets → Except Problem (Nat × Octets)
  | a :: b :: c :: d :: s =>
    match hexValue a, hexValue b, hexValue c, hexValue d with
    | some a, some b, some c, some d => .ok (((a * 16 + b) * 16 + c) * 16 + d, s)
    | _, _, _, _ => .error .malformed
  | _ => .error .truncated

/-- The UTF-8 octets of a code point that is no surrogate. -/
def utf8 (n : Nat) : Octets := Octets.ofText (String.singleton (Char.ofNat n))

/-- One given octet, with no blanks before it. -/
def exactly (k : UInt8) : Octets → Except Problem (Unit × Octets)
  | [] => .error .truncated
  | b :: s => if b == k then .ok ((), s) else .error .malformed

/-- The character named by an escape, after its backslash and `u`. -/
def unicodeEscape (s : Octets) : Except Problem (Octets × Octets) := do
  let (n, s) ← hexWord s
  if 0xDC00 ≤ n && n ≤ 0xDFFF then .error .malformed
  else if n < 0xD800 || 0xDFFF < n then .ok (utf8 n, s)
  else
    let (_, s) ← exactly (code '\\') s
    let (_, s) ← exactly (code 'u') s
    let (m, s) ← hexWord s
    if 0xDC00 ≤ m && m ≤ 0xDFFF then .ok (utf8 (0x10000 + (n - 0xD800) * 0x400 + (m - 0xDC00)), s)
    else .error .malformed

/-- The octet named by the letter of a short escape. -/
def shortEscape (b : UInt8) : Option UInt8 :=
  if b == code '"' then some (code '"')
  else if b == code '\\' then some (code '\\')
  else if b == code '/' then some (code '/')
  else if b == code 'b' then some 0x08
  else if b == code 'f' then some 0x0C
  else if b == code 'n' then some 0x0A
  else if b == code 'r' then some 0x0D
  else if b == code 't' then some 0x09
  else none

/-- The next piece of a quoted text: the octets that it stands for, or none at the closing quote. -/
def piece : Octets → Except Problem (Option Octets × Octets)
  | [] => .error .truncated
  | b :: s =>
    if b == code '"' then .ok (none, s)
    else if b == code '\\' then
      match s with
      | [] => .error .truncated
      | e :: s =>
        match shortEscape e with
        | some b => .ok (some [b], s)
        | none =>
          if e == code 'u' then (unicodeEscape s).map fun (o, s) => (some o, s) else .error .malformed
    else if b < 0x20 then .error .malformed
    else .ok (some [b], s)

/-- The octets of a quoted text up to its closing quote, which is taken; `done` holds them last first. -/
def pieces : Bound → Octets → Octets → Except Problem (Octets × Octets)
  | [], _, _ => .error .truncated
  | _ :: n, done, s =>
    match piece s with
    | .error p => .error p
    | .ok (none, s) => .ok (done.reverse, s)
    | .ok (some o, s) => pieces n (o.reverse ++ done) s

/-- A text after its opening quote. -/
def unquote : Reader String := fun s =>
  match pieces (boundOf s) [] s with
  | .error p => .error p
  | .ok (o, rest) =>
    match Octets.text? o with
    | some t => .ok (t, rest)
    | none => .error .malformed

/-- Skips a text after its opening quote. Its escapes are checked for their form alone. -/
def skipPieces : Bound → Octets → Except Problem (Unit × Octets)
  | [], _ => .error .truncated
  | _ :: _, [] => .error .truncated
  | _ :: n, b :: s =>
    if b == code '"' then .ok ((), s)
    else if b == code '\\' then
      match s with
      | [] => .error .truncated
      | e :: s =>
        if (shortEscape e).isSome then skipPieces n s
        else if e == code 'u' then
          match hexWord s with
          | .error p => .error p
          | .ok (_, s) => skipPieces n s
        else .error .malformed
    else if b < 0x20 then .error .malformed
    else skipPieces n s

/-- Skips a text after its opening quote. -/
def skipQuoted : Reader Unit := fun s => skipPieces (boundOf s) s

end Courier.Json
