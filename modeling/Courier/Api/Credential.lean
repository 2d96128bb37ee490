import Courier.Api.Route
import Courier.Registration

/-!
# Credentials

Admin routes ask for the admin secret, the others except the one for health for a token that was issued. Blanks around
what is presented do not count, and an empty one counts as none.
-/

namespace Courier.Api

/-- What a route asks for before anything else is looked at. -/
inductive Credential
  | none
  | admin
  | token
  deriving DecidableEq, Repr

/-- What an endpoint asks for. -/
def Endpoint.credential : Endpoint → Credential
  | .health => .none
  | .showFailure | .issueToken | .showToken | .revokeToken => .admin
  | .submit | .addChannel | .showChannel | .removeChannel | .listGroup | .listPlatform => .token

/-- A text, unless it is empty. -/
def unlessEmpty (s : String) : Option String := if s = "" then Option.none else some s

/-- The admin secret that a request presents. -/
def presentedSecret (r : Http.Request) : Option String :=
  (r.header? "admin-token").bind fun v => unlessEmpty (Text.trim v)

/-- What may stand before a token. -/
def bearerMark : String := "Bearer "

/-- Characters without a mark at their front, if it stands there. -/
def withoutMark (mark cs : List Char) : List Char := if mark.isPrefixOf cs then cs.drop mark.length else cs

/-- The token in the value of a header. -/
def bearerToken (value : String) : Option String :=
  let front := Text.dropBlankStart value.toList
  unlessEmpty (String.ofList (Text.trimChars (withoutMark bearerMark.toList front)))

/-- The token that a request presents. -/
def presentedToken (r : Http.Request) : Option String := (r.header? "authorization").bind bearerToken

/-- Whether a request presents the admin secret. -/
def checkSecret (secret : String) (r : Http.Request) : Except ServiceError Unit :=
  match presentedSecret r with
  | Option.none => .error (.authentication "admin token is required")
  | some s => if s = secret then .ok () else .error (.authentication "invalid admin token")

/-- Whether a request presents a token that was issued. -/
def checkToken (r : Http.Request) : Plan (Except ServiceError Unit) :=
  match presentedToken r with
  | Option.none => .done (.error (.authentication "authorization token is required"))
  | some t =>
    (Registration.findToken t).bind fun
      | .error e => .done (.error e)
      | .ok Option.none => .done (.error (.authentication "invalid authorization token"))
      | .ok (some _) => .done (.ok ())

/-- Whether a request presents a credential. -/
def Credential.check (secret : String) (r : Http.Request) : Credential → Plan (Except ServiceError Unit)
  | .none => .done (.ok ())
  | .admin => .done (checkSecret secret r)
  | .token => checkToken r

end Courier.Api
