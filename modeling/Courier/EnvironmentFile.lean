import Courier.Text.Blank
import Courier.Text.Unicode.Alphanumeric

/-!
# Environment files

A file of lines `NAME=value`, with comments and empty lines between them. Values can stand between quotes of either
kind, and then they go on over the end of a line (`Environment.lines`). Outside single quotes a backslash takes away the
meaning of the next character and `$NAME` stands for the text of a variable; a blank outside quotes ends a value, after
which only a comment may follow. A file is read up to the first line that is none of these.
-/

namespace Courier

/-- Texts by the names of variables; the first pair with a name counts. -/
abbrev Environment := List (String × String)

namespace Environment

/-! ## Lines -/

/-- What the place behind a character means for the next one. -/
inductive Place
  | plain
  /-- Behind a blank: a number sign starts a comment here. -/
  | blank
  | escaped
  /-- Between quotes of a kind. -/
  | quoted (mark : Char)
  /-- Behind a backslash between quotes of a kind. -/
  | quotedEscaped (mark : Char)
  deriving DecidableEq, Repr

/-- The place behind a character. Of two blanks the second one counts as any other character. -/
def Place.next (p : Place) (c : Char) : Place :=
  match p with
  | escaped => plain
  | quotedEscaped mark => quoted mark
  | quoted mark => if c = '\\' then quotedEscaped mark else if c = mark then plain else quoted mark
  | _ =>
    if c = '\\' then escaped
    else if c = '"' ∨ c = '\'' then quoted c
    else if p = plain ∧ Text.isBlankChar c ∧ c ≠ '\n' ∧ c ≠ '\r' then blank
    else plain

/-- What stands before a comment, and the place behind it; a comment ends in the plain. -/
def beforeComment (p : Place) : List Char → List Char × Place
  | [] => ([], p)
  | c :: cs =>
    if p = .blank ∧ c = '#' then ([], .plain)
    else
      let (kept, q) := beforeComment (p.next c) cs
      (c :: kept, q)

/-- The rows of a text, each with the line feed at its end; `done` holds the current row, last character first. -/
def rowsFrom (done : List Char) : List Char → List (List Char)
  | [] => if done.isEmpty then [] else [done.reverse]
  | c :: cs => if c = '\n' then (c :: done).reverse :: rowsFrom [] cs else rowsFrom (c :: done) cs

/-- Rows put together into lines. A row that ends at a place other than the plain goes on with the next one, the line
so far is `done`, and the rows of a line that never ends are lost. A row that starts with a number sign is no line. -/
def linesFrom (p : Place) (done : List Char) : List (List Char) → List (List Char)
  | [] => []
  | row :: rows =>
    if done.isEmpty ∧ (Text.dropBlankStart row).head? = some '#' then linesFrom .plain [] rows
    else
      let (kept, q) := beforeComment p row
      if q = .plain then (done ++ kept) :: linesFrom .plain [] rows else linesFrom q (done ++ kept) rows

/-- The lines of a text. A byte order mark at its start is no part of it. -/
def lines (text : String) : List (List Char) :=
  linesFrom .plain [] <| rowsFrom [] <|
    match text.toList with
    | '\ufeff' :: cs => cs
    | cs => cs

/-! ## Values -/

/-- What a character of a value is read as. -/
inductive Reading
  | text
  | escape
  /-- Text between single quotes. -/
  | single
  /-- The name of a variable behind a dollar sign, last character first. -/
  | variable (name : List Char)
  /-- The name of a variable behind a dollar sign and a brace, last character first. -/
  | braced (name : List Char)
  /-- Blanks behind the value. -/
  | blanks
  | comment
  deriving DecidableEq, Repr

/-- The part of a value before some place. -/
structure Draft where
  /-- The characters of the value, last first. -/
  done : List Char
  /-- Whether the place is between double quotes. -/
  isDouble : Bool
  /-- How the next character is read. -/
  reading : Reading

/-- The character that a backslash and a letter stand for. -/
def unescape? (c : Char) : Option Char :=
  if c = 'n' then some '\n' else if ['\\', '\'', '"', '$', ' '].contains c then some c else none

namespace Draft

/-- The text of the variable with a name, and nothing for a variable that is not set. -/
def insert (v : Draft) (env : Environment) (name : List Char) : Draft :=
  let text := (env.lookup (String.ofList name.reverse)).getD ""
  { v with done := text.toList.reverse ++ v.done, reading := .text }

/-- One more character of the value. -/
def push (v : Draft) (c : Char) : Draft := { v with done := c :: v.done, reading := .text }

/-- A character that is read as text. -/
def ofText (v : Draft) (c : Char) : Draft :=
  if c = '$' then { v with reading := .variable [] }
  else if c = '\\' then { v with reading := .escape }
  else if c = '"' then { v with isDouble := !v.isDouble }
  else if v.isDouble then v.push c
  else if c = '\'' then { v with reading := .single }
  else if c = ' ' ∨ c = '\t' then { v with reading := .blanks }
  else v.push c

/-- Reads one more character. The character that ends the name of a variable is a part of the value itself, whatever it
means elsewhere; only a dollar sign starts the next name. -/
def next? (env : Environment) (v : Draft) (c : Char) : Option Draft :=
  match v.reading with
  | .text => some (v.ofText c)
  | .escape => (unescape? c).map v.push
  | .single => some (if c = '\'' then { v with reading := .text } else { v with done := c :: v.done })
  | .variable name => some <|
    if Unicode.isAlphanumeric c then { v with reading := .variable (c :: name) }
    else if c = '\x7b' ∧ name = [] then { v with reading := .braced [] }
    else if c = '$' then { v.insert env name with reading := .variable [] }
    else (v.insert env name).push c
  | .braced name => some (if c = '\x7d' then v.insert env name else { v with reading := .braced (c :: name) })
  | .blanks =>
    if c = ' ' ∨ c = '\t' then some v else if c = '#' then some { v with reading := .comment } else none
  | .comment => some v

/-- The value, if it can end here: no quote and no brace is open. -/
def value? (env : Environment) (v : Draft) : Option String :=
  if v.isDouble then none
  else
    match v.reading with
    | .single | .braced _ => none
    | .variable name => some (String.ofList (v.insert env name).done.reverse)
    | _ => some (String.ofList v.done.reverse)

end Draft

/-- A value after the blanks before it; none at all before a comment. -/
def value? (env : Environment) (cs : List Char) : Option String :=
  match Text.dropBlankStart cs with
  | '#' :: _ => some ""
  | cs => (cs.foldlM (Draft.next? env) ⟨[], false, .text⟩).bind (Draft.value? env)

/-! ## Variables -/

/-- A character that stands in names after the first one. -/
def isNameChar (c : Char) : Bool := c.isAlphanum || c == '_' || c == '.'

/-- A name and the text after it. -/
def name? (cs : List Char) : Option (String × List Char) :=
  match cs with
  | c :: _ =>
    if c.isAlpha || c == '_' then some (String.ofList (cs.takeWhile isNameChar), cs.dropWhile isNameChar) else none
  | [] => none

/-- What a line without blanks around it says: nothing, or the text of a variable. None when it is no such line. -/
def ofTrimmed? (env : Environment) (cs : List Char) : Option (Option (String × String)) :=
  match cs with
  | [] => some none
  | '#' :: _ => some none
  | cs => do
    let (name, rest) ← name? cs
    match Text.dropBlankStart rest with
    | '=' :: cs => return some (name, ← value? env cs)
    | rest =>
      guard (name == "export")
      let (name, rest) ← name? rest
      match Text.dropBlankStart rest with
      | '=' :: cs => return some (name, ← value? env cs)
      | _ => none

/-- An environment with one more variable, unless that is set already. -/
def extend (env : Environment) (pair : String × String) : Environment :=
  if (env.lookup pair.1).isSome then env else env ++ [pair]

/-- An environment with the variables of lines up to the first one that is no such line. -/
def withLines (env : Environment) : List (List Char) → Environment
  | [] => env
  | l :: ls =>
    match ofTrimmed? env (Text.trimChars l) with
    | none => env
    | some none => env.withLines ls
    | some (some pair) => (env.extend pair).withLines ls

/-- An environment with the variables of a file that it does not have. -/
def withFile (env : Environment) (text : String) : Environment := env.withLines (lines text)

end Environment

end Courier
