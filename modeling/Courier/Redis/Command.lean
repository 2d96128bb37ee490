import Courier.Text.Shortest
import Courier.Text.Octets

/-!
# Redis commands

The commands that the courier sends to a Redis server, as the words that stand in them. Times to wait are written in
seconds with at least one decimal place.
-/

namespace Courier.Redis

/-- A command. -/
inductive Command
  /-- Asks whether the server is there. -/
  | ping
  /-- Reads a text. -/
  | get (key : String)
  /-- Stores a text for a number of seconds. -/
  | setex (key : String) (seconds : Nat) (value : Octets)
  /-- Puts an element at the front of a list. -/
  | lpush (key : String) (value : Octets)
  /-- Takes an element from the end of a list, waiting for it up to a number of milliseconds. -/
  | brpop (key : String) (wait : Nat)
  deriving DecidableEq, Repr

/-- Milliseconds as seconds, in the shortest text of their binary fraction. The whole seconds and the rest are rounded
before they are added. -/
def secondsText (milliseconds : Nat) : String :=
  ((Binary.ofQuotient (milliseconds / 1000) 1).add (Binary.ofQuotient (milliseconds % 1000) 1000)).text

namespace Command

/-- The name of a command. -/
def name : Command → String
  | ping => "PING"
  | get _ => "GET"
  | setex _ _ _ => "SETEX"
  | lpush _ _ => "LPUSH"
  | brpop _ _ => "BRPOP"

/-- What stands after the name of a command. -/
def arguments : Command → List Octets
  | ping => []
  | get key => [Octets.ofText key]
  | setex key seconds value => [Octets.ofText key, Octets.ofText (Decimal.ofNat seconds), value]
  | lpush key value => [Octets.ofText key, value]
  | brpop key wait => [Octets.ofText key, Octets.ofText (secondsText wait)]

/-- The words of a command. -/
def words (c : Command) : List Octets := Octets.ofText c.name :: c.arguments

end Command

end Courier.Redis
