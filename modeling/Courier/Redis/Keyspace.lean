import Courier.Named
import Courier.Redis.Command

/-!
# The keys of a Redis server

A key holds a text, perhaps only for some time, or a list. Lists grow at their front and are taken from at their end; a
list that has been emptied stays.
-/

namespace Courier.Redis

/-- What a key holds. -/
inductive Holding
  /-- A text, and the moment in milliseconds from which on it is gone. -/
  | text (value : Octets) (expires : Option Nat)
  | list (elements : List Octets)
  deriving DecidableEq, Repr

/-- What the keys hold. -/
abbrev Keyspace := Named Holding

/-- What a server answers to a command. -/
inductive Answer
  /-- The command was carried out. -/
  | okay
  /-- There is nothing. -/
  | nothing
  /-- A text or an element. -/
  | value (o : Octets)
  deriving DecidableEq, Repr

/-- What a server says of a key that holds something else than a command needs. -/
def wrongKind : String := "WRONGTYPE: Operation against a key holding the wrong kind of value"

namespace Keyspace

/-- What a key holds at a moment. -/
def find (k : Keyspace) (now : Nat) (key : String) : Option Holding :=
  match k.lookup key with
  | some (.text v (some t)) => if t ≤ now then none else some (.text v (some t))
  | h => h

/-- Carries a command out at a moment. A wait ends at once. -/
def execute (k : Keyspace) (now : Nat) : Command → Except String Answer × Keyspace
  | .ping => (.ok .okay, k)
  | .get key =>
    match k.find now key with
    | none => (.ok .nothing, k)
    | some (.text v _) => (.ok (.value v), k)
    | some (.list _) => (.error wrongKind, k)
  | .setex key seconds value => (.ok .okay, Named.put k key (.text value (some (now + 1000 * seconds))))
  | .lpush key value =>
    match k.find now key with
    | none => (.ok .okay, Named.put k key (.list [value]))
    | some (.list es) => (.ok .okay, Named.put k key (.list (value :: es)))
    | some (.text _ _) => (.error wrongKind, k)
  | .brpop key _ =>
    match k.find now key with
    | none => (.ok .nothing, k)
    | some (.text _ _) => (.error wrongKind, k)
    | some (.list es) =>
      match es.getLast? with
      | none => (.ok .nothing, k)
      | some e => (.ok (.value e), Named.put k key (.list es.dropLast))

/-- The lists, in the order of their keys. -/
def lists (k : Keyspace) : List (String × List Octets) :=
  (k.filterMap fun (key, h) =>
    match h with
    | .list es => some (key, es)
    | .text _ _ => none).mergeSort fun a b => a.1 ≤ b.1

end Keyspace

end Courier.Redis
