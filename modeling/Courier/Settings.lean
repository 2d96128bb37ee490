import Courier.EnvironmentFile
import Courier.Text.Decimal

/-!
# Settings

The settings come from environment variables and from a file of lines `NAME=value`. A variable that is set in the
environment hides the one in the file, even when its text is empty, and the first line for a variable hides the others
(`Environment.withFile`). Settings are read one by one in a fixed order, and the first one that is missing or no number
of its width is reported.
-/

namespace Courier

/-- The variables that hold settings. -/
inductive Variable
  | databaseUrl
  | redisUrl
  | databaseConnections
  | portNumber
  | adminSecret
  | topic
  | pollSeconds
  | deliverySeconds
  | requestSeconds
  | emailKey
  | emailSender
  deriving DecidableEq, Repr

/-- The name of a variable. -/
def Variable.name : Variable → String
  | databaseUrl => "DATABASE_URL"
  | redisUrl => "REDIS_URL"
  | databaseConnections => "DB_MAX_CONNECTIONS"
  | portNumber => "API_PORT"
  | adminSecret => "ADMIN_TOKEN"
  | topic => "QUEUE_TOPIC"
  | pollSeconds => "CONSUMER_POLL_TIMEOUT_SECS"
  | deliverySeconds => "HTTP_TIMEOUT_SECS"
  | requestSeconds => "REQUEST_TIMEOUT_SECS"
  | emailKey => "RESEND_API_KEY"
  | emailSender => "EMAIL_FROM"

/-- The text of a variable that is set. -/
def Environment.get? (env : Environment) (v : Variable) : Option String := env.lookup v.name

/-- Why settings cannot be used. -/
inductive SettingsFault
  /-- A variable that has to be set is not. -/
  | missing (v : Variable)
  /-- A variable is no number of so many bits. -/
  | noNumber (v : Variable) (bits : Nat)
  deriving DecidableEq, Repr

/-- What is wrong, in words. -/
def SettingsFault.message : SettingsFault → String
  | missing v => v.name ++ " environment variable is required"
  | noNumber v bits => v.name ++ " must be a valid u" ++ Decimal.ofNat bits

/-- How the courier is set up. -/
structure Settings where
  databaseUrl : String
  redisUrl : String
  /-- The most connections to the database at a time. -/
  databaseConnections : Nat
  /-- The number of the socket that the service listens on. -/
  portNumber : Nat
  /-- The secret that admin routes ask for. -/
  adminSecret : String
  /-- The topic whose queue takes the notifications. -/
  topic : String
  /-- How long the worker waits for a notification. -/
  pollSeconds : Nat
  /-- How long a delivery may take. -/
  deliverySeconds : Nat
  /-- How long a request to the service may take. -/
  requestSeconds : Nat
  /-- The key for sending email, if email is set up. -/
  emailKey : Option String
  /-- The sender of emails. -/
  emailSender : Option String
  deriving DecidableEq, Repr

namespace Settings

/-- A variable that has to be set. -/
def required (env : Environment) (v : Variable) : Except SettingsFault String :=
  match env.get? v with
  | some t => .ok t
  | none => .error (.missing v)

/-- A variable that holds a number of so many bits, which is `standard` when it is not set. -/
def number (env : Environment) (v : Variable) (bits standard : Nat) : Except SettingsFault Nat :=
  match env.get? v with
  | none => .ok standard
  | some t =>
    match Decimal.word? bits t with
    | some n => .ok n
    | none => .error (.noNumber v bits)

/-- Reads the settings. -/
def read (env : Environment) : Except SettingsFault Settings := do
  let databaseUrl ← required env .databaseUrl
  let databaseConnections ← number env .databaseConnections 32 20
  let portNumber ← number env .portNumber 16 9999
  let adminSecret ← required env .adminSecret
  let pollSeconds ← number env .pollSeconds 64 5
  let deliverySeconds ← number env .deliverySeconds 64 10
  let requestSeconds ← number env .requestSeconds 64 30
  return {
    databaseUrl, databaseConnections, portNumber, adminSecret, pollSeconds, deliverySeconds, requestSeconds
    redisUrl := (env.get? .redisUrl).getD "redis://localhost:6379"
    topic := (env.get? .topic).getD "notifications"
    emailKey := env.get? .emailKey
    emailSender := env.get? .emailSender }

end Settings

end Courier
