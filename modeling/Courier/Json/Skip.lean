import Courier.Json.Quoted
import Courier.Json.Numeral

/-!
# Skipped values

The value of a member that nobody asked for is passed over. It must be well-formed, but its numbers are not judged by
size, its texts need not be UTF-8, and it may be nested to any depth.
-/

namespace Courier.Json

/-- Skips an exponent after its letter. -/
def skipExponent (s : Octets) : Except Problem (Unit × Octets) :=
  match (exponentSign s).2 with
  | b :: r => if isDigit b then .ok ((), afterDigits r) else .error .malformed
  | [] => .error .malformed

/-- Skips the part of a number after the digits before any point. -/
def skipFraction (s : Octets) : Except Problem (Unit × Octets) :=
  match s with
  | b :: r =>
    if b == code '.' then
      if leadingDigits r = [] then .error .malformed
      else
        match afterDigits r with
        | c :: t => if isExponentMark c then skipExponent t else .ok ((), c :: t)
        | [] => .ok ((), [])
    else if isExponentMark b then skipExponent r
    else .ok ((), s)
  | [] => .ok ((), [])

/-- Skips a number after its sign. -/
def skipUnsigned (s : Octets) : Except Problem (Unit × Octets) :=
  match s with
  | b :: r =>
    if b == code '0' then
      match r with
      | c :: _ => if isDigit c then .error .malformed else skipFraction r
      | [] => .ok ((), [])
    else if isDigit b then skipFraction (afterDigits r)
    else .error .malformed
  | [] => .error .malformed

/-- Skips a number, at its sign or first digit. -/
def skipNumeral : Reader Unit := fun s =>
  match s with
  | b :: r => if b == code '-' then skipUnsigned r else skipUnsigned s
  | [] => .error .malformed

/-- Skips a value after any blanks. -/
def skipValue : Bound → Reader Unit
  | [] => fail .truncated
  | _ :: n => do
    let b ← next
    if b == code 'n' then do advance; literal [code 'u', code 'l', code 'l']
    else if b == code 't' then do advance; literal [code 'r', code 'u', code 'e']
    else if b == code 'f' then do advance; literal [code 'a', code 'l', code 's', code 'e']
    else if beginsNumeral b then skipNumeral
    else if b == code '"' then do advance; skipQuoted
    else if b == code '[' then do
      advance
      discard (elements (skipValue n) n true [])
      expect (code ']')
    else if b == code '{' then do
      advance
      members (fun _ => do advance; skipQuoted; expect (code ':'); skipValue n) n true ()
      expect (code '}')
    else fail .malformed

/-- Skips a value after any blanks. It has fewer levels, and fewer parts at each, than octets. -/
def skip : Reader Unit := fun s => skipValue (boundOf s) s

end Courier.Json
