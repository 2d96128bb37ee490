import Courier.Memory.Cache
import Courier.Memory.Queues
import Courier.Memory.Records
import Courier.Memory.Registers
import Courier.Plan

/-!
# Stores in memory

The channels, the cache of the guard, the queues and the failure records together. They answer every call that
submitting and looking up make, and never fail.
-/

namespace Courier.Memory

/-- Everything that is kept in memory. -/
structure Stores where
  channels : Channels
  cache : Cache
  queues : Queues
  records : Records
  /-- The moment by which markers expire. -/
  now : Nat

namespace Stores

/-- The stores with some channels, and nothing else in them. -/
def ofChannels (cs : List Channel) : Stores := ⟨⟨cs, cs.length⟩, [], [], [], 0⟩

/-- Appends a payload to the queue of a topic. -/
def push (s : Stores) (topic : String) (payload : Octets) : Stores :=
  { s with queues := s.queues.push topic payload }

/-- The payloads that wait on a topic. -/
def waiting (s : Stores) (topic : String) : List Octets := s.queues.waiting topic

/-- Answers the calls on the stores; there is nothing to answer the others. -/
def answer : Plan.Responder Stores
  | .channelsWithIds ids, s => (.ok (s.channels.withIds ids), s)
  | .channelsInGroups groups, s => (.ok (s.channels.inGroups groups), s)
  | .readMarker key, s =>
    let (marker, cache) := s.cache.read s.now key
    (.ok marker, { s with cache })
  | .keepMarker key marker lifetime, s => (.ok (), { s with cache := s.cache.keep s.now key marker lifetime })
  | .enqueue topic payload, s => (.ok (), s.push topic payload)
  | .recordFailure d, s =>
    let (r, records) := s.records.add (fun _ => .epoch) d
    (.ok r, { s with records })
  | .loadFailure id, s => (.ok (s.records.find id), s)
  | _, s => (.error "nothing answers this call", s)

end Stores

end Courier.Memory
