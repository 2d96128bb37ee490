import Courier.Http.Status
import Courier.Http.Url
import Courier.Notification
import Courier.Json.Tree
import Courier.Text.Base64

/-!
# Delivery over the web

Emails are handed to an email service and chat messages to webhooks, both by posting JSON. What is posted and how the
answer is judged are separate functions, with the exchange itself between them.
-/

namespace Courier

/-- A post to a URL. -/
structure Outgoing where
  url : Http.Url
  /-- What the post is authorized with, if with anything. -/
  authorization : Option String
  body : Octets
  deriving DecidableEq, Repr

/-- What comes back from a post: a status with a text, or nothing. -/
abbrev Incoming := Option (Nat × Octets)

namespace Delivery

/-- The text for a post that cannot be made. -/
def unbuildable : String := "builder error"

/-- The text for a URL that cannot be posted to. -/
def unusable (u : Http.Url) : String := unbuildable ++ " for url (" ++ u.text ++ ")"

/-- The text for a post that is not answered. -/
def unanswered (u : Http.Url) : String := "error sending request for url (" ++ u.text ++ ")"

/-- The longest URL of a post, in octets. -/
def longestUrl : Nat := 65534

/-- The value of a header without the blanks at its end, which are lost on the way. -/
def headerValue (cs : List Char) : String :=
  String.ofList (cs.reverse.dropWhile fun c => c == ' ' || c == '\t').reverse

/-- The authorization of a user with a secret. -/
def basic (user : String) (secret : Option String) : String :=
  headerValue ("Basic ".toList ++ Base64.encode (Octets.ofText (user ++ ":" ++ secret.getD "")))

/-- The authorization of whoever holds a key. -/
def bearer (key : String) : String := headerValue ("Bearer ".toList ++ key.toList)

/-- A URL that can be posted to, and the authorization that goes with the user it names. The URL itself is then used
without the user. -/
def usable (text : String) : Except String (Http.Url × Option String) :=
  match Http.Url.parse? text with
  | none => .error unbuildable
  | some named =>
    let u := named.withoutCredentials
    match u.host with
    | none => .error (unusable u)
    | some h =>
      if (u.scheme == "http" || u.scheme == "https") && h.isSendable && u.text.utf8ByteSize ≤ longestUrl then
        .ok (u, named.credentials?.map fun (user, secret) => basic user secret)
      else .error (unusable u)

/-- A character that may stand in the value of a header. -/
def fitsHeader (c : Char) : Bool := c == '\t' || 0x20 ≤ c.toNat && c.toNat ≠ 0x7F

/-- The text of an answer; a mark for the order of octets at its front is no part of it. -/
def answerText (body : Octets) : String :=
  let text := (Octets.text? body).getD ""
  match text.toList with
  | c :: cs => if c.toNat = 0xFEFF then String.ofList cs else text
  | [] => text

end Delivery

/-- How the email service is used. -/
structure Mailer where
  key : Option String
  sender : Option String
  /-- The URL under which the service is found. -/
  base : String
  deriving DecidableEq, Repr

namespace Mailer

/-- The sender of emails unless another one is set. -/
def standardSender : String := "Herald <notifications@herald.local>"

/-- The JSON that asks the service for an email. -/
def letter (m : Mailer) (e : Email) : Json :=
  .object [("from", .text (m.sender.getD standardSender)), ("to", .list [.text e.recipient]),
    ("subject", .text e.subject), ("text", .text e.body)]

/-- The post that asks the service for an email. -/
def post (m : Mailer) (e : Email) : Except String Outgoing :=
  match m.key with
  | none => .error "email delivery is not configured"
  | some key => do
    let (url, own) ← Delivery.usable (m.base ++ "/emails")
    if key.toList.all Delivery.fitsHeader then
      .ok ⟨url, some (own.getD (Delivery.bearer key)), Json.write (m.letter e)⟩
    else .error Delivery.unbuildable

/-- Judges the answer of the service. -/
def judge (o : Outgoing) : Incoming → Except String Unit
  | none => .error (Delivery.unanswered o.url)
  | some (status, body) =>
    if Http.isSuccess status then .ok ()
    else
      .error ("Resend request failed with status " ++ Http.statusText status ++ ": " ++ Delivery.answerText body)

end Mailer

namespace Webhook

/-- The post of JSON to a webhook. -/
def post (url : String) (body : Json) : Except String Outgoing := do
  let (url, authorization) ← Delivery.usable url
  return ⟨url, authorization, Json.write body⟩

/-- Judges the answer of a webhook: whatever its status is, the webhook was reached. -/
def judge (o : Outgoing) : Incoming → Except String Nat
  | none => .error (Delivery.unanswered o.url)
  | some (status, _) => .ok status

end Webhook

/-- What can come back from a server: statuses of three digits, apart from those that only announce another one. An
answer that changes the protocol and one that says that nothing is new have no text. -/
def Incoming.ofStatus (status : Nat) (text : Octets) : Incoming :=
  if status = 101 ∨ status = 204 ∨ status = 304 then some (status, [])
  else if status < 200 ∨ 999 < status then none
  else some (status, text)

/-- The servers on the web, which give the same answers whatever their hosts are called. -/
structure Web where
  /-- The answers by path and query. Where there is none, the status is 200. -/
  answers : List (String × Nat × Octets)
  deriving DecidableEq, Repr

namespace Web

/-- What comes back from a post, if the post reaches a server at all. -/
def exchange (w : Web) (o : Outgoing) : Option Incoming :=
  if o.url.scheme == "http" then
    match w.answers.lookup o.url.target with
    | some (status, body) => some (.ofStatus status body)
    | none => some (some (200, []))
  else none

end Web

end Courier
