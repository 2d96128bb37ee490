import Courier.Plan
import Courier.Redis.Keyspace

/-!
# Guard and queue on a Redis server

One server keeps the markers of the guard and the queues. A topic has its own list, at whose front payloads arrive and
from whose end they are taken; markers are texts that expire after whole seconds, at least one.
-/

namespace Courier.Redis

/-- A server, with what has been sent to it. -/
structure Server where
  keys : Keyspace
  now : Nat
  /-- The commands that fail at present, by their names, and why. -/
  faults : Named String
  /-- The commands that were received, the latest first. -/
  received : List Command
  deriving Repr

/-- The key of the list for a topic. -/
def queueKey (topic : String) : String := "queue:" ++ topic

/-- What a client says of an error of the server. -/
def serverError (reason : String) : String := "An error was signalled by the server - ResponseError: " ++ reason

/-- What a client says of a marker that is no text. -/
def notText : String := "Cannot convert from UTF-8- TypeError"

namespace Server

/-- A server without keys. -/
def new : Server := ⟨[], 0, [], []⟩

/-- The commands of a client that connects. -/
def greeting : List Command := [.ping]

/-- Sends a command. -/
def request (s : Server) (c : Command) : Except String Answer × Server :=
  let s := { s with received := c :: s.received }
  match s.faults.lookup c.name with
  | some e => (.error (serverError e), s)
  | none =>
    let (a, keys) := s.keys.execute s.now c
    (a, { s with keys })

/-- Makes a command fail from now on, or fail no longer. -/
def fault (s : Server) (name : String) (reason : Option String) : Server :=
  match reason with
  | some r => { s with faults := Named.put s.faults name r }
  | none => { s with faults := Named.remove s.faults name }

/-- Reads a marker, which has to be a text. -/
def readMarker (s : Server) (key : String) : Except String (Option Octets) × Server :=
  match s.request (.get key) with
  | (.error e, s) => (.error e, s)
  | (.ok (.value o), s) => (if (Octets.text? o).isSome then .ok (some o) else .error notText, s)
  | (.ok _, s) => (.ok none, s)

/-- Keeps a marker for so many milliseconds. -/
def keepMarker (s : Server) (key : String) (marker : Octets) (lifetime : Nat) : Except String Unit × Server :=
  let (a, s) := s.request (.setex key (max (lifetime / 1000) 1) marker)
  (a.map fun _ => (), s)

/-- Appends a payload to the queue of a topic. -/
def enqueue (s : Server) (topic : String) (payload : Octets) : Except String Unit × Server :=
  let (a, s) := s.request (.lpush (queueKey topic) payload)
  (a.map fun _ => (), s)

/-- Takes the oldest payload of a topic, waiting for it up to a number of milliseconds. -/
def dequeue (s : Server) (topic : String) (wait : Nat) : Except String (Option Octets) × Server :=
  match s.request (.brpop (queueKey topic) wait) with
  | (.error e, s) => (.error e, s)
  | (.ok (.value o), s) => (.ok (some o), s)
  | (.ok _, s) => (.ok none, s)

/-- Answers the calls of the guard and those on queues. -/
def answer : Plan.Responder Server
  | .readMarker key, s => s.readMarker key
  | .keepMarker key marker lifetime, s => s.keepMarker key marker lifetime
  | .enqueue topic payload, s => s.enqueue topic payload
  | _, s => (.error "no such store", s)

end Server

end Courier.Redis
