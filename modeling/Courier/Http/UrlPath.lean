import Courier.Http.Host

/-!
# Paths in URLs

A path is cut into segments at its slashes. A segment `.` stands for the place where it is and a segment `..` for the
one above; both are resolved while the path is read, and the dots may be escaped. A segment of a letter and a colon is a
drive, which no `..` leaves. The files of a drive are on no other host.
-/

namespace Courier.Http.UrlPath

/-- A character that is escaped in fragments: a blank, a quote, an angle bracket or a grave accent, or a control. -/
def escapedInFragment (c : Char) : Bool := isControl c || [0x20, 0x22, 0x3C, 0x3E, 0x60].contains c.toNat

/-- A character that is escaped in paths: a number sign, a question mark or a brace too. -/
def escapedInPath (c : Char) : Bool := escapedInFragment c || [0x23, 0x3F, 0x7B, 0x7D].contains c.toNat

/-- The pieces of some text between slashes; `done` holds the current piece, last character first. -/
def segmentsFrom (isSlash : Char → Bool) (done : List Char) : List Char → List (List Char)
  | [] => [done.reverse]
  | c :: cs =>
    if isSlash c then done.reverse :: segmentsFrom isSlash [] cs else segmentsFrom isSlash (c :: done) cs

/-- A segment with its escaped dots replaced. -/
def plainDots : List Char → List Char
  | '%' :: '2' :: c :: cs => if c = 'e' ∨ c = 'E' then '.' :: plainDots cs else '%' :: '2' :: plainDots (c :: cs)
  | c :: cs => c :: plainDots cs
  | [] => []

/-- A segment for the place where it stands. -/
def isHere (s : List Char) : Bool := plainDots s == ['.']

/-- A segment for the place above. -/
def isAbove (s : List Char) : Bool := plainDots s == ['.', '.']

/-- A segment that begins with a letter and a colon, or a bar in its place. -/
def isDriveStart : List Char → Bool
  | c :: d :: cs => c.isAlpha && (d == ':' || d == '|') && (cs.isEmpty || cs.head? == some '\\')
  | _ => false

/-- A segment of a letter and a colon, or a bar in its place. -/
def isDrive (s : List Char) : Bool := s.length == 2 && isDriveStart s

/-- The place above. A path is never left through its root, nor through a drive. -/
def above : List (List Char) → List (List Char)
  | [] => []
  | s :: ss => if isDriveStart s then s :: ss else ss

/-- The path so far with a segment behind it, escaped. The first segment of a file can be a drive, whose bar becomes a
colon. -/
def enter (ofFile : Bool) (s : List Char) (done : List (List Char)) : List (List Char) :=
  let s := percentEncode escapedInPath s
  (if ofFile && done.isEmpty && isDrive s then [s.headD ':', ':'] else s) :: done

/-- The segments of a path with its dots resolved; `done` holds the ones before, last first. -/
def resolve (ofFile : Bool) (done : List (List Char)) : List (List Char) → List (List Char)
  | [] => done.reverse
  | [s] =>
    if isAbove s then ([] :: above done).reverse
    else if isHere s then ([] :: done).reverse
    else (enter ofFile s done).reverse
  | s :: ss =>
    if isAbove s then resolve ofFile (above done) ss
    else if isHere s then resolve ofFile done ss
    else resolve ofFile (enter ofFile s done) ss

/-- Segments with a slash before each. -/
def ofSegments (ss : List (List Char)) : List Char := ss.flatMap fun s => '/' :: s

/-- The path that some text after its first slash denotes. -/
def parse (isSlash : Char → Bool) (cs : List Char) : String :=
  String.ofList (ofSegments (resolve false [] (segmentsFrom isSlash [] cs)))

end Courier.Http.UrlPath
