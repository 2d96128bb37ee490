import Courier.Api.Credential
import Courier.FailureLog
import Courier.Http.MediaType
import Courier.Submission

/-!
# The endpoints of the service

A request is answered in stages, and the first one that refuses it decides the answer: its path has to belong to a
route, its method has to be allowed there, its credential has to be right, its parameter and its body have to be
readable. Only then is anything done.

These are the answers of the endpoints. A server around them may limit the time that an answer takes, and then answer
408 in their place. That limit is not modelled.
-/

namespace Courier.Api

open Http (Response MediaType)

/-- How the service is set up. -/
structure Config where
  /-- The secret that admin routes ask for. -/
  secret : String
  submission : Submission
  deriving DecidableEq

/-! ## Answers -/

/-- The answer that reports an error. -/
def errorResponse (e : ServiceError) : Response := .json e.status (Json.write (.object [("error", .text e.notice)]))

/-- The answer to something that can fail. -/
def responseOf {α : Type} (f : α → Response) : Except ServiceError α → Response
  | .ok a => f a
  | .error e => errorResponse e

/-- The answer that shows a value. -/
def shown {α : Type} [Wire α] (status : Nat) (a : α) : Response := .json status (Wire.encode a)

/-- The answer that shows one member with a text. -/
def told (status : Nat) (name value : String) : Response := .json status (Json.write (.object [(name, .text value)]))

/-- The answer that shows channels. -/
def listed (cs : List Channel) : Response :=
  .json 200 ((Json.Shape.list (Wire.shape Channel)).write (cs.map Wire.toValue))

/-- The version that the service reports. -/
def version : String := "0.1.0"

/-- The answer about the health of the service. -/
def healthy : Response :=
  .json 200 (Json.write (.object
    [("status", .text "ok"), ("service", .text "herald-api"), ("version", .text version)]))

/-! ## Bodies -/

/-- Whether a request says that its body is JSON. -/
def declaresJson (r : Http.Request) : Bool :=
  match (r.header? "content-type").bind MediaType.parse? with
  | some m => m.isJson
  | none => false

/-- The answer to a body that cannot be read. The reason that would follow a colon is left out. -/
def bodyRefusal : Json.Problem → Response
  | .mismatch => .plain 422 "Failed to deserialize the JSON body into the target type"
  | .malformed | .truncated => .plain 400 "Failed to parse the request body as JSON"

/-- The value in the body of a request. -/
def bodyOf (α : Type) [Wire α] (r : Http.Request) : Except Response α :=
  if declaresJson r then
    match Wire.decode r.body with
    | .ok a => .ok a
    | .error p => .error (bodyRefusal p)
  else .error (.plain 415 "Expected request with `Content-Type: application/json`")

/-- Goes on with the value in the body of a request. -/
def withBody {α : Type} [Wire α] (r : Http.Request) (f : α → Plan Response) : Plan Response :=
  match bodyOf α r with
  | .ok a => f a
  | .error response => .done response

/-- Goes on with a parameter that is an id. -/
def withId (parameter : String) (f : Int64 → Plan Response) : Plan Response :=
  match identifier parameter with
  | .ok id => f id
  | .error reason => .done (.plain 400 reason)

/-! ## What is done -/

/-- Submits a notification. -/
def submitRequest (c : Config) (r : Request) : Plan Response :=
  (c.submission.create r).map fun
    | .ok _ => told 200 "message" "notification sent successfully"
    | .error e => errorResponse e.toService

/-- Does what an accepted request asks for. -/
def Endpoint.act (c : Config) (r : Http.Request) (parameter : String) : Endpoint → Plan Response
  | .health => .done healthy
  | .submit => withBody r (submitRequest c)
  | .showFailure => withId parameter fun id => (FailureLog.view id).map (responseOf (shown 200))
  | .issueToken =>
    withBody r fun d => (Registration.issueToken d).map (responseOf fun t => told 201 "token" t.token)
  | .showToken => (Registration.tokenOfUser parameter).map (responseOf (shown 200))
  | .revokeToken =>
    (Registration.revokeToken parameter).map (responseOf fun
      | true => told 200 "message" ("token for " ++ parameter ++ " deleted")
      | false => errorResponse (.notFound (Registration.tokenMissing parameter)))
  | .addChannel => withBody r fun d => (Registration.addChannel d).map (responseOf (shown 201))
  | .showChannel => withId parameter fun id => (Registration.channel id).map (responseOf (shown 200))
  | .removeChannel =>
    withId parameter fun id => (Registration.removeChannel id).map (responseOf fun
      | true => .json 200 (Json.write (.object [("deleted", .bool true)]))
      | false => errorResponse (.notFound (Registration.channelMissing id)))
  | .listGroup => (Registration.groupMembers parameter).map (responseOf listed)
  | .listPlatform => (Registration.platformMembers parameter).map (responseOf listed)

/-- Answers a request to an endpoint, with the parameter as it is written. -/
def Endpoint.answer (c : Config) (r : Http.Request) (name : String) (written : List Char) (e : Endpoint) :
    Plan Response :=
  (e.credential.check c.secret r).bind fun
    | .error err => .done (errorResponse err)
    | .ok () =>
      match unescape name written with
      | .error reason => .done (.plain 400 reason)
      | .ok parameter => e.act c r parameter

/-- Answers a request with its body, even if only the headers were asked for. -/
def answerInFull (c : Config) (r : Http.Request) : Plan Response :=
  match route? r.path with
  | none => .done (.bare 404)
  | some (route, written) =>
    match route.endpoint? r.method with
    | none => .done { Response.bare 405 with allow := some route.allowed }
    | some e => e.answer c r (route.parameter?.getD "") written

/-- Answers a request. Only the endpoints speak here: a server that gives up on a slow answer says 408 instead, while a
hand-off that has begun goes on without anybody who waits for it. -/
def respond (c : Config) (r : Http.Request) : Plan Response :=
  (answerInFull c r).map fun response => if r.method = "HEAD" then response.withoutBody else response

end Courier.Api
