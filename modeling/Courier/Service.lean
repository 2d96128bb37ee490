import Courier.Api.Endpoint
import Courier.Delivery
import Courier.Dispatch
import Courier.Memory.Records
import Courier.Memory.Registers
import Courier.Redis.Server

/-!
# The service

The service with all that it uses: a database with the registers and the failure records, a Redis server with the guard
and the queues, and the web with the email service and the webhooks. Every call on the database is one statement.
-/

namespace Courier

open Memory

/-- The registers and the failure records, and how the database behaves. -/
structure Database where
  /-- The text of the token that is issued after so many others. -/
  mint : Nat → String
  /-- The moment at which the row with an id is written. -/
  moment : Int64 → Instant
  channels : Channels
  tokens : Tokens
  failures : Records
  /-- Why every statement fails at present, if it does. -/
  fault : Option String
  /-- The statements that have succeeded. -/
  statements : Nat

namespace Database

/-- A database with nothing in it. -/
def empty (mint : Nat → String) (moment : Int64 → Instant) : Database :=
  ⟨mint, moment, .empty, .empty, [], none, 0⟩

/-- What a client says of an error of the database. -/
def errorText (reason : String) : String := "error returned from database: " ++ reason

/-- Carries a statement out, unless every statement fails. -/
def statement {α : Type} (d : Database) (f : Database → α × Database) : Except String α × Database :=
  match d.fault with
  | some e => (.error (errorText e), d)
  | none =>
    let (a, d) := f d
    (.ok a, { d with statements := d.statements + 1 })

theorem statement_of_fault {α : Type} {d : Database} {e : String} (h : d.fault = some e) (f : Database → α × Database) :
    d.statement f = (.error (errorText e), d) := by
  rw [statement, h]

theorem statement_of_none {α : Type} {d : Database} (h : d.fault = none) (f : Database → α × Database) :
    d.statement f = (.ok (f d).1, { (f d).2 with statements := (f d).2.statements + 1 }) := by
  rw [statement, h]

/-- Answers the calls on the registers and the failure records; none for other calls. -/
def answer? (d : Database) : (c : Call) → Option (c.Reply × Database)
  | .channelsWithIds ids => some (d.statement fun d => (d.channels.withIds ids, d))
  | .channelsInGroups groups => some (d.statement fun d => (d.channels.inGroups groups, d))
  | .recordFailure f => some (d.statement fun d =>
    let (r, failures) := d.failures.add d.moment f
    (r, { d with failures }))
  | .loadFailure id => some (d.statement fun d => (d.failures.find id, d))
  | .addChannel p target group => some (d.statement fun d =>
    let (c, channels) := d.channels.add p target group
    (c, { d with channels }))
  | .channelWithId id => some (d.statement fun d => (d.channels.find id, d))
  | .groupMembers group => some (d.statement fun d => (d.channels.groupMembers group, d))
  | .platformMembers p => some (d.statement fun d => (d.channels.platformMembers p, d))
  | .removeChannel id => some (d.statement fun d =>
    let (b, channels) := d.channels.remove id
    (b, { d with channels }))
  | .issueToken user => some (d.statement fun d =>
    let (t, tokens) := d.tokens.issue d.mint d.moment user
    (t, { d with tokens }))
  | .tokenOfUser user => some (d.statement fun d => (d.tokens.ofUser user, d))
  | .findToken token => some (d.statement fun d => (d.tokens.find token, d))
  | .revokeToken user => some (d.statement fun d =>
    let (b, tokens) := d.tokens.revoke user
    (b, { d with tokens }))
  | .readMarker _ | .keepMarker _ _ _ | .enqueue _ _ | .sendEmail _ | .post _ _ => none

end Database

/-- The service and all that it uses. -/
structure Service where
  config : Api.Config
  database : Database
  redis : Redis.Server
  mailer : Mailer
  web : Web
  /-- The posts that reached a server on the web, the latest first. -/
  posted : List Outgoing

namespace Service

/-- How long the queue is waited for, in milliseconds. -/
def wait : Nat := 1000

/-- The service over a database, with nothing else in it. -/
def new (secret topic : String) (database : Database) : Service where
  config := ⟨secret, topic, Guard.standardLifetime⟩
  database := database
  redis := .new
  mailer := ⟨none, none, ""⟩
  web := ⟨[]⟩
  posted := []

/-- Makes a post, if it can be made, and judges what comes back. -/
def exchange {α : Type} (s : Service) (post : Except String Outgoing)
    (judge : Outgoing → Incoming → Except String α) : Except String α × Service :=
  match post with
  | .error e => (.error e, s)
  | .ok o =>
    match s.web.exchange o with
    | none => (judge o none, s)
    | some i => (judge o i, { s with posted := o :: s.posted })

/-- Answers a call. -/
def answer : Plan.Responder Service
  | .sendEmail e, s => s.exchange (s.mailer.post e) Mailer.judge
  | .post url body, s => s.exchange (Webhook.post url body) Webhook.judge
  | c, s =>
    match s.database.answer? c with
    | some (r, database) => (r, { s with database })
    | none =>
      let (r, redis) := s.redis.answer c
      (r, { s with redis })

/-- Answers a request. -/
def respond (s : Service) (r : Http.Request) : Http.Response × Service := (Api.respond s.config r).run answer s

/-- Writes a failed attempt down. -/
def record (s : Service) (f : FailureDraft) : Except String FailureRecord × Service := answer (.recordFailure f) s

/-- Takes the oldest notification from the queue and dispatches it; none when none waits, an error when the queue
fails. -/
def deliverNext (s : Service) : Except String (Option (Except RelayError Outcome)) × Service :=
  match s.redis.dequeue s.config.submission.topic wait with
  | (.error e, redis) => (.error e, { s with redis })
  | (.ok none, redis) => (.ok none, { s with redis })
  | (.ok (some p), redis) =>
    let (o, s) := (Dispatch.dispatch p).run answer { s with redis }
    (.ok (some o), s)

/-- Sends an email by itself. -/
def send (s : Service) (e : Email) : Except String Unit × Service := answer (.sendEmail e) s

/-- Posts to a webhook by itself. -/
def post (s : Service) (url : String) (body : Json) : Except String Nat × Service := answer (.post url body) s

end Service

end Courier
