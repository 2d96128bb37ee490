import Courier.Http.Message
import Courier.Http.Percent
import Courier.Text.Decimal

/-!
# Routes

A path belongs to at most one route. Its segments are compared as they are written; the last segment of some routes is a
parameter, which is not empty and is unescaped once the route is known. Every route allows some methods.
-/

namespace Courier.Api

/-- What a request can ask for. -/
inductive Endpoint
  | health
  | submit
  | showFailure
  | issueToken
  | showToken
  | revokeToken
  | addChannel
  | showChannel
  | removeChannel
  | listGroup
  | listPlatform
  deriving DecidableEq, Repr

/-- Where requests go. -/
inductive Route
  | health
  | notifications
  | failure
  | tokens
  | tokenOfUser
  | channels
  | channel
  | group
  | platform
  deriving DecidableEq, Repr

/-- How a request to a route can be made. -/
inductive Method
  | get
  | post
  | delete
  deriving DecidableEq, Repr

namespace Route

/-- Every route. -/
def all : List Route :=
  [.health, .notifications, .failure, .tokens, .tokenOfUser, .channels, .channel, .group, .platform]

/-- The segments of a route before its parameter. -/
def segments : Route → List String
  | health => ["health"]
  | notifications | failure => ["api", "v1", "notification"]
  | tokens | tokenOfUser => ["api", "v1", "token"]
  | channels | channel => ["api", "v1", "channel"]
  | group => ["api", "v1", "group"]
  | platform => ["api", "v1", "platform"]

/-- The name of the parameter of a route. -/
def parameter? : Route → Option String
  | health | notifications | tokens | channels => none
  | failure | channel => some "id"
  | tokenOfUser => some "user"
  | group => some "group"
  | platform => some "platform"

/-- What a route offers, and by which method. -/
def endpoints : Route → List (Method × Endpoint)
  | health => [(.get, .health)]
  | notifications => [(.post, .submit)]
  | failure => [(.get, .showFailure)]
  | tokens => [(.post, .issueToken)]
  | tokenOfUser => [(.get, .showToken), (.delete, .revokeToken)]
  | channels => [(.post, .addChannel)]
  | channel => [(.get, .showChannel), (.delete, .removeChannel)]
  | group => [(.get, .listGroup)]
  | platform => [(.get, .listPlatform)]

/-- The names of a method; whoever may get something may ask for its headers. -/
def methodNames : Method → List String
  | .get => ["GET", "HEAD"]
  | .post => ["POST"]
  | .delete => ["DELETE"]

/-- The methods that a route allows, as a text. -/
def allowed (r : Route) : String := ",".intercalate (r.endpoints.flatMap fun e => methodNames e.1)

/-- What a request by a method asks a route for. -/
def endpoint? (r : Route) (method : String) : Option Endpoint :=
  (r.endpoints.find? fun e => (methodNames e.1).contains method).map Prod.snd

/-- The parameter of a path whose segments belong to a route; the empty text if the route has none. -/
def match? (r : Route) (path : List (List Char)) : Option (List Char) :=
  let fixed := r.segments.map String.toList
  match r.parameter? with
  | none => if path = fixed then some [] else none
  | some _ =>
    match path.getLast? with
    | some p => if path.dropLast = fixed ∧ p ≠ [] then some p else none
    | none => none

end Route

/-- The segments of a path after its first slash; `done` holds the current segment, last character first. -/
def segmentsFrom (done : List Char) : List Char → List (List Char)
  | [] => [done.reverse]
  | c :: cs => if c = '/' then done.reverse :: segmentsFrom [] cs else segmentsFrom (c :: done) cs

/-- The path of a request without its query. -/
def bare (path : String) : List Char := path.toList.takeWhile fun c => c != '?' && c != '#'

/-- The route of a path with its parameter as it is written. -/
def route? (path : String) : Option (Route × List Char) :=
  match bare path with
  | '/' :: cs =>
    let segments := segmentsFrom [] cs
    Route.all.findSome? fun r => (r.match? segments).map fun p => (r, p)
  | _ => none

/-- What stands before the reason why a parameter cannot be used. -/
def invalidUrl (reason : String) : String := "Invalid URL: " ++ reason

/-- A parameter with its escapes replaced. -/
def unescape (name : String) (written : List Char) : Except String String :=
  match Octets.text? (Http.percentDecode (Octets.ofText (String.ofList written))) with
  | some s => .ok s
  | none => .error (invalidUrl ("Invalid UTF-8 in `" ++ name ++ "`"))

/-- A parameter that is an id. -/
def identifier (text : String) : Except String Int64 :=
  match Decimal.int64? text with
  | some id => .ok id
  | none => .error (invalidUrl ("Cannot parse `" ++ text ++ "` to a `i64`"))

end Courier.Api
