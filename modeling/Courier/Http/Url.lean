import Courier.Http.UrlPath
import Courier.Text.Blank

/-!
# URLs

A URL is read as a web browser reads one: blanks around it do not count, in URLs of the web slashes may be missing or
turned, dots in the path are resolved, and characters that may not stand in a place are escaped there. A URL without a
scheme cannot be read.
-/

namespace Courier.Http

/-- Who is asked, and as whom. -/
structure Authority where
  username : String
  password : Option String
  host : Option Host
  /-- The number after the host, unless it is the standard one of the scheme. -/
  portNumber : Option Nat
  deriving DecidableEq, Repr

/-- A URL. Its texts are escaped. -/
structure Url where
  scheme : String
  authority : Option Authority
  path : String
  query : Option String
  fragment : Option String
  deriving DecidableEq, Repr

namespace Authority

/-- The user and the secret, with a sign behind them, if there are any. -/
def userText (a : Authority) : String :=
  match a.password with
  | some p => a.username ++ ":" ++ p ++ "@"
  | none => if a.username = "" then "" else a.username ++ "@"

/-- An authority as a text. -/
def text (a : Authority) : String :=
  a.userText ++ (a.host.map Host.text).getD "" ++ (a.portNumber.map fun n => ":" ++ Decimal.ofNat n).getD ""

end Authority

namespace Url

/-- The host of a URL, if it has one. -/
def host (u : Url) : Option Host := u.authority.bind Authority.host

/-- What is asked of the host: the path and the query. -/
def target (u : Url) : String := u.path ++ (u.query.map ("?" ++ ·)).getD ""

/-- What stands between the scheme and the path. Two slashes at the front of a path are kept from being read as the
beginning of an authority. -/
def lead (u : Url) : String :=
  match u.authority with
  | some a => "//" ++ a.text
  | none => if ['/', '/'].isPrefixOf u.path.toList then "/." else ""

/-- The text of a URL. -/
def text (u : Url) : String :=
  u.scheme ++ ":" ++ u.lead ++ u.target ++ (u.fragment.map ("#" ++ ·)).getD ""

/-! ## Users -/

/-- The text that an escaped one stands for. -/
def unescaped? (s : String) : Option String := Octets.text? (percentDecode (Octets.ofText s))

/-- The user and the secret that a URL names. A user who cannot be read is none. -/
def credentials? (u : Url) : Option (String × Option String) := do
  let a ← u.authority
  let user ← unescaped? a.username
  let secret := a.password.bind unescaped?
  guard (user ≠ "" ∨ secret.isSome)
  some (user, secret)

/-- A URL without the user and the secret that it names. -/
def withoutCredentials (u : Url) : Url :=
  if u.credentials?.isSome then
    { u with authority := u.authority.map fun a => { a with username := "", password := none } }
  else u

/-! ## What is escaped where -/

/-- A character that is escaped in users and secrets: one that ends them too. -/
def escapedInUser (c : Char) : Bool :=
  UrlPath.escapedInPath c || ['/', ':', ';', '=', '@', '[', '\\', ']', '^', '|'].contains c

/-- A character that is escaped in queries: a number sign too, but no grave accent. -/
def escapedInQuery (c : Char) : Bool := isControl c || [0x20, 0x22, 0x23, 0x3C, 0x3E].contains c.toNat

/-- A character that is escaped in the queries of the web and of files: an apostrophe too. -/
def escapedInWebQuery (c : Char) : Bool := escapedInQuery c || c == '\''

/-- Some text with characters escaped. -/
def escaped (mustEscape : Char → Bool) (cs : List Char) : String := String.ofList (percentEncode mustEscape cs)

/-! ## Parts -/

/-- The schemes of the web and their standard numbers. -/
def webNumbers : List (String × Nat) := [("http", 80), ("https", 443), ("ws", 80), ("wss", 443), ("ftp", 21)]

/-- What ends an authority or a segment of a path on the web. -/
def isWebSlash (c : Char) : Bool := c == '/' || c == '\\'

/-- What ends an authority or a segment of a path elsewhere. -/
def isPlainSlash (c : Char) : Bool := c == '/'

/-- Some text before a character, and the text behind it if the character occurs. -/
def splitAt (mark : Char) (cs : List Char) : List Char × Option (List Char) :=
  match cs.dropWhile (· != mark) with
  | [] => (cs, none)
  | _ :: rest => (cs.takeWhile (· != mark), some rest)

/-- What stands before the last `@` of an authority, and what stands behind it. -/
def splitUser (cs : List Char) : Option (List Char) × List Char :=
  match cs.reverse.dropWhile (· != '@') with
  | [] => (none, cs)
  | _ :: user => (some user.reverse, (cs.reverse.takeWhile (· != '@')).reverse)

/-- The host of an authority and what follows it from the first colon on that is not between brackets. -/
def splitHost (inside : Bool) (done : List Char) : List Char → List Char × List Char
  | [] => (done.reverse, [])
  | c :: cs =>
    if c = ':' ∧ inside = false then (done.reverse, c :: cs)
    else splitHost (if c = '[' then true else if c = ']' then false else inside) (c :: done) cs

/-- The number after a host, and what follows it. No digits at all are no number, and neither is the standard one. -/
def number? (standard : Option Nat) (cs : List Char) : Option (Option Nat × List Char) := do
  let digits := cs.takeWhile Decimal.isDigit
  let rest := cs.dropWhile Decimal.isDigit
  let n := Decimal.value digits
  guard (n < 65536 && (rest.head?.all isWebSlash))
  some (if digits.isEmpty || standard == some n then none else some n, rest)

/-- An authority and what follows its number. `standard` is the standard number on the web and absent elsewhere, where
there need be no host, unless there is a user or a number; `followed` says whether more follows the authority. -/
def authority? (standard : Option Nat) (followed : Bool) (cs : List Char) : Option (Authority × List Char) := do
  let (user, cs) := splitUser cs
  let (name, secret) := splitAt ':' (user.getD [])
  let secret := secret.filter (· ≠ [])
  let (host, rest) := splitHost false [] cs
  let a : Authority :=
    ⟨escaped escapedInUser name, secret.map (escaped escapedInUser), none, none⟩
  if host = [] then
    guard (standard.isNone && rest.isEmpty && a.userText == "" && !(user == some [] && followed))
    some (a, [])
  else
    let h ← if standard.isSome then Host.ofWeb? host else Host.ofText? host
    match rest with
    | [] => some ({ a with host := some h }, [])
    | _ :: rest =>
      let (portNumber, rest) ← number? standard rest
      some ({ a with host := some h, portNumber }, rest)

/-- The host and the path of a file, given what follows the scheme. The own machine is no host. -/
def fileParts? (cs : List Char) : Option (Option Host × String) :=
  let path (cs : List Char) : List (List Char) := UrlPath.resolve true [] (UrlPath.segmentsFrom isWebSlash [] cs)
  let text (ss : List (List Char)) : String :=
    String.ofList ('/' :: (UrlPath.ofSegments ss).dropWhile (· == '/'))
  let afterSlash (cs : List Char) : List Char := if cs.head?.any isWebSlash then cs.drop 1 else cs
  match cs with
  | a :: b :: rest =>
    if isWebSlash a && isWebSlash b then
      let host := rest.takeWhile fun c => !isWebSlash c
      if UrlPath.isDrive host || host.isEmpty then some (none, text (path rest))
      else do
        let below := rest.dropWhile fun c => !isWebSlash c
        let h ← Host.ofWeb? host
        if h = .name "localhost" then return (none, text (path below))
        else
          let ss := path (afterSlash below)
          return (if ss.head?.any UrlPath.isDrive then none else some h, text ss)
    else some (none, text (path (afterSlash cs)))
  | _ => some (none, text (path (afterSlash cs)))

/-- A character that stands in schemes after their first letter. -/
def isSchemeChar (c : Char) : Bool := c.isAlphanum || c == '+' || c == '-' || c == '.'

/-- The scheme at the front of some text and what follows its colon. -/
def splitScheme (cs : List Char) : Option (List Char × List Char) :=
  match cs.dropWhile isSchemeChar with
  | ':' :: rest =>
    match cs with
    | c :: _ => if c.isAlpha then some ((cs.takeWhile isSchemeChar).map Char.toLower, rest) else none
    | [] => none
  | _ => none

/-- Text without the controls and blanks around it, and without tabs and line ends anywhere. -/
def clean (cs : List Char) : List Char :=
  let blank (c : Char) : Bool := c.toNat ≤ 0x20
  ((cs.dropWhile blank).reverse.dropWhile blank).reverse.filter fun c => c != '\t' && c != '\n' && c != '\r'

/-- The authority and the path of a URL of the web, given what follows the scheme. -/
def webParts? (standard : Nat) (cs : List Char) : Option (Authority × String) := do
  let cs := cs.dropWhile isWebSlash
  let (a, _) ← authority? (some standard) false (cs.takeWhile fun c => !isWebSlash c)
  return (a, UrlPath.parse isWebSlash ((cs.dropWhile fun c => !isWebSlash c).drop 1))

/-- The authority and the path of a URL of another kind, given what follows the scheme. -/
def otherParts? (followed : Bool) : List Char → Option (Option Authority × String)
  | '/' :: '/' :: cs => do
    let below := cs.dropWhile (· != '/')
    let (a, rest) ← authority? none (followed || !below.isEmpty) (cs.takeWhile (· != '/'))
    match rest ++ below with
    | [] => return (some a, "")
    | c :: cs => return (some a, UrlPath.parse isPlainSlash (if isPlainSlash c then cs else c :: cs))
  | '/' :: cs => some (none, UrlPath.parse isPlainSlash cs)
  | cs => some (none, escaped isControl cs)

/-- The URL that a text denotes. -/
def parse? (s : String) : Option Url := do
  let (scheme, rest) ← splitScheme (clean s.toList)
  let scheme := String.ofList scheme
  let (rest, fragment) := splitAt '#' rest
  let (rest, query) := splitAt '?' rest
  let followed := query.isSome || fragment.isSome
  let fragment := fragment.map (escaped UrlPath.escapedInFragment)
  let webQuery := query.map (escaped escapedInWebQuery)
  match webNumbers.lookup scheme with
  | some standard =>
    let (a, path) ← webParts? standard rest
    return { scheme, authority := some a, path, query := webQuery, fragment }
  | none =>
    if scheme = "file" then
      let (host, path) ← fileParts? rest
      return { scheme, authority := some ⟨"", none, host, none⟩, path, query := webQuery, fragment }
    else
      let (authority, path) ← otherParts? followed rest
      return { scheme, authority, path, query := query.map (escaped escapedInQuery), fragment }

end Url

end Courier.Http
