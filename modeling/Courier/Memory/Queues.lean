import Courier.Named
import Courier.Text.Octets

/-!
# Queues in memory

A queue of payloads for every topic. Payloads leave a queue in the order in which they came.
-/

namespace Courier.Memory

/-- The payloads that wait, by topics, the oldest first. -/
abbrev Queues := Named (List Octets)

namespace Queues

/-- The payloads that wait on a topic. -/
def waiting (q : Queues) (topic : String) : List Octets := (q.lookup topic).getD []

/-- Appends a payload to the queue of a topic. -/
def push (q : Queues) (topic : String) (payload : Octets) : Queues := Named.put q topic (q.waiting topic ++ [payload])

/-- Takes the oldest payload of a topic. -/
def pop (q : Queues) (topic : String) : Option Octets × Queues :=
  match q.waiting topic with
  | [] => (none, q)
  | p :: ps => (some p, Named.put q topic ps)

theorem waiting_push_self (q : Queues) (topic : String) (payload : Octets) :
    (q.push topic payload).waiting topic = q.waiting topic ++ [payload] := by
  rw [push, waiting, Named.lookup_put_self]
  rfl

theorem waiting_push_of_ne {topic other : String} (h : other ≠ topic) (q : Queues) (payload : Octets) :
    (q.push topic payload).waiting other = q.waiting other := by
  rw [push, waiting, Named.lookup_put_of_ne h]
  rfl

/-- What is taken and what is left are what waited. -/
theorem waiting_pop_self (q : Queues) (topic : String) :
    (q.pop topic).1.toList ++ (q.pop topic).2.waiting topic = q.waiting topic := by
  unfold pop
  cases h : q.waiting topic with
  | nil => simp [h]
  | cons p ps =>
    rw [waiting, Named.lookup_put_self]
    rfl

theorem waiting_pop_of_ne {topic other : String} (h : other ≠ topic) (q : Queues) :
    (q.pop topic).2.waiting other = q.waiting other := by
  unfold pop
  cases q.waiting topic with
  | nil => rfl
  | cons p ps =>
    rw [waiting, Named.lookup_put_of_ne h]
    rfl

end Queues

end Courier.Memory
