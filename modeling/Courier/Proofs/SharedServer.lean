import Courier.Memory.Stores
import Courier.Proofs.HandoffProgress
import Courier.Proofs.Keyspace
import Courier.Redis.Server

/-!
# One server for the guard and the queues

The guard and the queues can be kept in memory, each in a store of its own, or under the keys of one Redis server.
`Depot` is what both ways have in common, and an `Order` is what somebody asks of a depot. `Mirrors` relates a server
to the stores that it stands for: the marker of a name is a text under the key of the guard, and what waits on a topic
is, backwards, the list under the key of the topic. Every order is answered alike and keeps the relation
(`Mirrors.carryOut`), so whole runs are answered alike (`Mirrors.serve`). That queues in memory hand everything out
once and in turn is shown of the stores alone (`inMemory_serve`, `inMemory_consumed`).
-/

namespace Courier

open Memory Redis

/-- Something that keeps markers and queues. -/
structure Depot (σ : Type) where
  /-- Answers the calls of the guard and those that append to a queue. -/
  answer : Plan.Responder σ
  /-- Takes the oldest payload of a topic, waiting for one up to a number of milliseconds. -/
  take : String → Nat → σ → Except String (Option Octets) × σ
  /-- Lets milliseconds pass. -/
  later : Nat → σ → σ

/-- What is asked of a depot. -/
inductive Order
  /-- Whether a name was submitted a short while ago. -/
  | check (uuid : String)
  /-- Marks a name as submitted. -/
  | mark (uuid marker : String)
  | produce (topic : String) (payload : Octets)
  /-- Somebody who waits for no time at all would wait for ever. -/
  | consume (topic : String) (wait : Nat) (hwait : 0 < wait)
  /-- Lets milliseconds pass. -/
  | pass (span : Nat)

/-- How an order ended. -/
inductive Reply
  | checked (r : Except RelayError Bool)
  | marked (r : Except RelayError Unit)
  | produced (r : Except String Unit)
  | consumed (r : Except String (Option Octets))
  | passed

namespace Depot

variable {σ : Type}

/-- Carries out an order, for a guard that keeps markers for a given time. -/
def carryOut (d : Depot σ) (lifetime : Nat) : Order → σ → Reply × σ
  | .check uuid, s => ((Guard.check uuid).run d.answer s).map .checked id
  | .mark uuid marker, s => ((Guard.mark uuid (Octets.ofText marker) lifetime).run d.answer s).map .marked id
  | .produce topic payload, s => (d.answer (.enqueue topic payload) s).map .produced id
  | .consume topic wait _, s => (d.take topic wait s).map .consumed id
  | .pass span, s => (.passed, d.later span s)

/-- Carries out orders, one after another. -/
def serve (d : Depot σ) (lifetime : Nat) : List Order → σ → List (Order × Reply) × σ
  | [], s => ([], s)
  | o :: os, s =>
    let (r, s) := d.carryOut lifetime o s
    let (log, s) := d.serve lifetime os s
    ((o, r) :: log, s)

/-- The stores in memory. Whoever finds a queue empty waits to the end and looks once more. -/
def inMemory : Depot Stores where
  answer := Stores.answer
  take topic wait s :=
    match s.queues.pop topic with
    | (some p, queues) => (.ok (some p), { s with queues })
    | (none, _) => (.ok (s.queues.pop topic).1, { s with queues := (s.queues.pop topic).2, now := s.now + wait })
  later span s := { s with now := s.now + span }

/-- A server. Whoever finds a queue empty waits to the end. -/
def onServer : Depot Server where
  answer := Server.answer
  take topic wait s :=
    match s.dequeue topic wait with
    | (.ok none, s) => (.ok none, { s with now := s.now + wait })
    | (r, s) => (r, s)
  later span s := { s with now := s.now + span }

theorem inMemory_answer : inMemory.answer = Stores.answer := rfl

theorem onServer_answer : onServer.answer = Server.answer := rfl

variable {topic : String} {wait : Nat}

theorem inMemory_take_of_nil {s : Stores} (h : s.waiting topic = []) :
    inMemory.take topic wait s = (.ok none, { s with now := s.now + wait }) := by
  have hpop : s.queues.pop topic = (none, s.queues) := by
    rw [Queues.pop, show s.queues.waiting topic = [] from h]
  simp only [inMemory, hpop]

theorem inMemory_take_of_cons {s : Stores} {p : Octets} {ps : List Octets} (h : s.waiting topic = p :: ps) :
    inMemory.take topic wait s = (.ok (some p), { s with queues := Named.put s.queues topic ps }) := by
  have hpop : s.queues.pop topic = (some p, Named.put s.queues topic ps) := by
    rw [Queues.pop, show s.queues.waiting topic = p :: ps from h]
  simp only [inMemory, hpop]

theorem onServer_take_of_none {s t : Server} (h : s.dequeue topic wait = (.ok none, t)) :
    onServer.take topic wait s = (.ok none, { t with now := t.now + wait }) := by
  simp only [onServer, h]

theorem onServer_take_of_some {s t : Server} {p : Octets} (h : s.dequeue topic wait = (.ok (some p), t)) :
    onServer.take topic wait s = (.ok (some p), t) := by
  simp only [onServer, h]

end Depot

/-! ## Plans of the guard -/

/-- The reply to the one call of a check decides it. -/
theorem Guard.check_run {σ : Type} (answer : Plan.Responder σ) (uuid : String) (s : σ) :
    (check uuid).run answer s =
      (match (answer (.readMarker (key uuid)) s).1 with
        | .ok (marker : Option Octets) => .ok (isTaken marker)
        | .error e => .error (.guardDown e), (answer (.readMarker (key uuid)) s).2) := by
  unfold check
  rw [Plan.run]
  obtain ⟨r, t⟩ := answer (.readMarker (key uuid)) s
  cases r <;> rfl

/-- The reply to the one call of a marking decides it. -/
theorem Guard.mark_run {σ : Type} (answer : Plan.Responder σ) (uuid : String) (marker : Octets) (lifetime : Nat)
    (s : σ) :
    (mark uuid marker lifetime).run answer s =
      (match (answer (.keepMarker (key uuid) marker lifetime) s).1 with
        | .ok (_ : Unit) => .ok ()
        | .error e => .error (.guardDown e), (answer (.keepMarker (key uuid) marker lifetime) s).2) := by
  unfold mark
  rw [Plan.run]
  obtain ⟨r, t⟩ := answer (.keepMarker (key uuid) marker lifetime) s
  cases r <;> rfl

/-! ## A server that mirrors stores -/

/-- A server holds what stores hold, from now on. -/
structure Mirrors (srv : Server) (mem : Stores) : Prop where
  faults : srv.faults = []
  moment : srv.now = mem.now
  markers : ∀ uuid t, mem.now ≤ t → srv.keys.text? t (Guard.key uuid) = some (mem.cache.live? t (Guard.key uuid))
  /-- A marker that is not a text could not be read back. -/
  texts : ∀ uuid t m, mem.now ≤ t → mem.cache.live? t (Guard.key uuid) = some m → (Octets.text? m).isSome
  /-- Lists grow at their front. -/
  queues : ∀ topic t, mem.now ≤ t → srv.keys.elements? t (queueKey topic) = some (mem.waiting topic).reverse

/-- A server that has received nothing, and empty stores. -/
theorem mirrors_new (moment : Nat) :
    Mirrors { Server.new with now := moment } { Stores.ofChannels [] with now := moment } where
  faults := rfl
  moment := rfl
  markers uuid t ht := rfl
  texts uuid t m ht h := by cases h
  queues topic t ht := rfl

namespace Mirrors

variable {srv : Server} {mem : Stores}

/-- Time passes for both. -/
theorem later (h : Mirrors srv mem) (span : Nat) :
    Mirrors { srv with now := srv.now + span } { mem with now := mem.now + span } where
  faults := h.faults
  moment := congrArg (· + span) h.moment
  markers uuid t ht := h.markers uuid t (Nat.le_trans (Nat.le_add_right _ _) ht)
  texts uuid t m ht := h.texts uuid t m (Nat.le_trans (Nat.le_add_right _ _) ht)
  queues topic t ht := h.queues topic t (Nat.le_trans (Nat.le_add_right _ _) ht)

/-- What a server has received does not matter. -/
theorem receive (h : Mirrors srv mem) (received : List Command) : Mirrors { srv with received := received } mem :=
  ⟨h.faults, h.moment, h.markers, h.texts, h.queues⟩

/-- A marker is read alike. -/
theorem readMarker (h : Mirrors srv mem) (uuid : String) :
    (srv.answer (.readMarker (Guard.key uuid))).1 = (mem.answer (.readMarker (Guard.key uuid))).1 ∧
      Mirrors (srv.answer (.readMarker (Guard.key uuid))).2 (mem.answer (.readMarker (Guard.key uuid))).2 := by
  have hread : srv.answer (.readMarker (Guard.key uuid)) = (.ok (mem.cache.live? mem.now (Guard.key uuid)),
      { srv with received := .get (Guard.key uuid) :: srv.received }) := by
    refine Server.readMarker_eq h.faults ?_ fun o ho => h.texts uuid mem.now o (Nat.le_refl _) ho
    rw [h.moment]
    exact h.markers uuid mem.now (Nat.le_refl _)
  -- reading in memory may remove a marker, but only one that has expired
  have hlive : ∀ other t, mem.now ≤ t →
      (mem.cache.read mem.now (Guard.key uuid)).2.live? t other = mem.cache.live? t other := by
    intro other t ht
    exact Cache.live?_read ht mem.cache (Guard.key uuid) other
  rw [hread]
  refine ⟨rfl, h.faults, h.moment, fun other t ht => ?_, fun other t m ht hm => ?_, h.queues⟩
  · exact (h.markers other t ht).trans (congrArg some (hlive _ t ht).symm)
  · exact h.texts other t m ht ((hlive _ t ht).symm.trans hm)

/-- A marker that is a text is kept alike for a time that a server can measure. -/
theorem keepMarker (h : Mirrors srv mem) (uuid marker : String) {lifetime : Nat}
    (hlifetime : 1000 * max (lifetime / 1000) 1 = lifetime) :
    (srv.answer (.keepMarker (Guard.key uuid) (Octets.ofText marker) lifetime)).1 =
        (mem.answer (.keepMarker (Guard.key uuid) (Octets.ofText marker) lifetime)).1 ∧
      Mirrors (srv.answer (.keepMarker (Guard.key uuid) (Octets.ofText marker) lifetime)).2
        (mem.answer (.keepMarker (Guard.key uuid) (Octets.ofText marker) lifetime)).2 := by
  have hsrv : srv.answer (.keepMarker (Guard.key uuid) (Octets.ofText marker) lifetime) = _ :=
    Server.keepMarker_eq h.faults (Guard.key uuid) (Octets.ofText marker) lifetime
  have hmem : mem.answer (.keepMarker (Guard.key uuid) (Octets.ofText marker) lifetime) =
      (.ok (), { mem with cache := mem.cache.keep mem.now (Guard.key uuid) (Octets.ofText marker) lifetime }) := rfl
  rw [hlifetime, h.moment] at hsrv
  rw [hsrv, hmem]
  refine ⟨rfl, h.faults, rfl, fun other t ht => ?_, fun other t m ht hm => ?_, fun topic t ht => ?_⟩
  · by_cases ho : other = uuid
    · subst ho
      simp only [Keyspace.text?_put_text, Cache.live?_keep_self]
    · have hkey : Guard.key other ≠ Guard.key uuid := fun hk => ho (Guard.key_injective hk)
      simp only [Keyspace.text?_put_of_ne hkey, Cache.live?_keep_of_ne hkey]
      exact h.markers other t ht
  · by_cases ho : other = uuid
    · subst ho
      simp only [Cache.live?_keep_self] at hm
      split at hm
      · cases hm
        simp only [Octets.text?_ofText, Option.isSome_some]
      · cases hm
    · have hkey : Guard.key other ≠ Guard.key uuid := fun hk => ho (Guard.key_injective hk)
      simp only [Cache.live?_keep_of_ne hkey] at hm
      exact h.texts other t m ht hm
  · simp only [Keyspace.elements?_put_of_ne (guardKey_ne_queueKey uuid topic).symm]
    exact h.queues topic t ht

/-- A payload arrives alike. -/
theorem enqueue (h : Mirrors srv mem) (topic : String) (payload : Octets) :
    (srv.answer (.enqueue topic payload)).1 = (mem.answer (.enqueue topic payload)).1 ∧
      Mirrors (srv.answer (.enqueue topic payload)).2 (mem.answer (.enqueue topic payload)).2 := by
  have hnow : srv.keys.elements? srv.now (queueKey topic) = some (mem.waiting topic).reverse := by
    rw [h.moment]
    exact h.queues topic mem.now (Nat.le_refl _)
  have hsrv : srv.answer (.enqueue topic payload) = _ := Server.enqueue_eq h.faults hnow payload
  have hmem : mem.answer (.enqueue topic payload) = (.ok (), mem.push topic payload) := rfl
  rw [hsrv, hmem]
  refine ⟨rfl, h.faults, h.moment, fun uuid t ht => ?_, h.texts, fun other t ht => ?_⟩
  · simp only [Keyspace.text?_put_of_ne (guardKey_ne_queueKey uuid topic)]
    exact h.markers uuid t ht
  · by_cases ho : other = topic
    · subst ho
      simp only [Keyspace.elements?_put_list, Stores.push, Stores.waiting, Queues.waiting_push_self,
        List.reverse_concat]
    · have hkey : queueKey other ≠ queueKey topic := fun hk => ho (queueKey_injective hk)
      simp only [Keyspace.elements?_put_of_ne hkey, Stores.push, Stores.waiting, Queues.waiting_push_of_ne ho]
      exact h.queues other t ht

/-- A payload is taken alike, and when there is none, both wait to the end. -/
theorem take (h : Mirrors srv mem) (topic : String) (wait : Nat) :
    (Depot.onServer.take topic wait srv).1 = (Depot.inMemory.take topic wait mem).1 ∧
      Mirrors (Depot.onServer.take topic wait srv).2 (Depot.inMemory.take topic wait mem).2 := by
  have hnow : srv.keys.elements? srv.now (queueKey topic) = some (mem.waiting topic).reverse := by
    rw [h.moment]
    exact h.queues topic mem.now (Nat.le_refl _)
  cases hw : mem.waiting topic with
  | nil =>
    rw [hw, List.reverse_nil] at hnow
    have hsrv : Depot.onServer.take topic wait srv = _ :=
      Depot.onServer_take_of_none (Server.dequeue_of_nil h.faults hnow wait)
    rw [hsrv, Depot.inMemory_take_of_nil hw]
    exact ⟨rfl, (h.receive _).later wait⟩
  | cons p ps =>
    rw [hw, List.reverse_cons] at hnow
    have hsrv : Depot.onServer.take topic wait srv = _ :=
      Depot.onServer_take_of_some (Server.dequeue_of_concat h.faults hnow wait)
    rw [hsrv, Depot.inMemory_take_of_cons hw]
    refine ⟨rfl, h.faults, h.moment, fun uuid t ht => ?_, h.texts, fun other t ht => ?_⟩
    · simp only [Keyspace.text?_put_of_ne (guardKey_ne_queueKey uuid topic)]
      exact h.markers uuid t ht
    · by_cases ho : other = topic
      · subst ho
        simp only [Keyspace.elements?_put_list, Stores.waiting, Queues.waiting, Named.lookup_put_self, Option.getD_some]
      · have hkey : queueKey other ≠ queueKey topic := fun hk => ho (queueKey_injective hk)
        simp only [Keyspace.elements?_put_of_ne hkey, Stores.waiting, Queues.waiting, Named.lookup_put_of_ne ho]
        exact h.queues other t ht

/-- Every order is answered alike, and afterwards the server still holds what the stores hold. -/
theorem carryOut (h : Mirrors srv mem) {seconds : Nat} (hseconds : 1 ≤ seconds) (o : Order) :
    (Depot.onServer.carryOut (1000 * seconds) o srv).1 = (Depot.inMemory.carryOut (1000 * seconds) o mem).1 ∧
      Mirrors (Depot.onServer.carryOut (1000 * seconds) o srv).2
        (Depot.inMemory.carryOut (1000 * seconds) o mem).2 := by
  cases o with
  | check uuid =>
    obtain ⟨hreply, hafter⟩ := h.readMarker uuid
    simp only [Depot.carryOut, Guard.check_run, Depot.onServer_answer, Depot.inMemory_answer, Prod.map, id, hreply]
    exact ⟨trivial, hafter⟩
  | mark uuid marker =>
    have hlifetime : 1000 * max (1000 * seconds / 1000) 1 = 1000 * seconds := by omega
    obtain ⟨hreply, hafter⟩ := h.keepMarker uuid marker hlifetime
    simp only [Depot.carryOut, Guard.mark_run, Depot.onServer_answer, Depot.inMemory_answer, Prod.map, id, hreply]
    exact ⟨trivial, hafter⟩
  | produce topic payload =>
    obtain ⟨hreply, hafter⟩ := h.enqueue topic payload
    exact ⟨congrArg Reply.produced hreply, hafter⟩
  | consume topic wait hwait =>
    obtain ⟨hreply, hafter⟩ := h.take topic wait
    exact ⟨congrArg Reply.consumed hreply, hafter⟩
  | pass span => exact ⟨rfl, h.later span⟩

/-- Whole runs are answered alike. -/
theorem serve (h : Mirrors srv mem) {seconds : Nat} (hseconds : 1 ≤ seconds) (os : List Order) :
    (Depot.onServer.serve (1000 * seconds) os srv).1 = (Depot.inMemory.serve (1000 * seconds) os mem).1 ∧
      Mirrors (Depot.onServer.serve (1000 * seconds) os srv).2 (Depot.inMemory.serve (1000 * seconds) os mem).2 := by
  induction os generalizing srv mem with
  | nil => exact ⟨rfl, h⟩
  | cons o os ih =>
    obtain ⟨hreply, hafter⟩ := h.carryOut hseconds o
    obtain ⟨hreplies, hend⟩ := ih hafter
    refine ⟨?_, hend⟩
    simp only [Depot.serve, hreply, hreplies]

end Mirrors

/-! ## First in, first out -/

/-- The payloads that came to a topic. -/
def arrived (topic : String) (log : List (Order × Reply)) : List Octets :=
  log.filterMap fun
    | (.produce t p, _) => if t = topic then some p else none
    | _ => none

/-- The payloads of a topic that were handed out. -/
def handedOut (topic : String) (log : List (Order × Reply)) : List Octets :=
  log.filterMap fun
    | (.consume t _ _, .consumed (.ok (some p))) => if t = topic then some p else none
    | _ => none

theorem arrived_cons (topic : String) (x : Order × Reply) (log : List (Order × Reply)) :
    arrived topic (x :: log) = arrived topic [x] ++ arrived topic log := List.filterMap_append (l := [x])

theorem handedOut_cons (topic : String) (x : Order × Reply) (log : List (Order × Reply)) :
    handedOut topic (x :: log) = handedOut topic [x] ++ handedOut topic log := List.filterMap_append (l := [x])

namespace Depot

variable {lifetime : Nat}

/-- An order hands out what waits first, and what comes waits last. -/
theorem inMemory_carryOut (o : Order) (s : Stores) (topic : String) :
    s.waiting topic ++ arrived topic [(o, (inMemory.carryOut lifetime o s).1)] =
      handedOut topic [(o, (inMemory.carryOut lifetime o s).1)] ++
        (inMemory.carryOut lifetime o s).2.waiting topic := by
  cases o with
  | check uuid => exact List.append_nil _
  | mark uuid marker => exact List.append_nil _
  | produce t p =>
    show s.waiting topic ++ arrived topic [(.produce t p, .produced (.ok ()))] = (s.push t p).waiting topic
    by_cases ht : topic = t
    · subst ht
      simp [arrived, Stores.push, Stores.waiting, Queues.waiting_push_self]
    · simp [arrived, Ne.symm ht, Stores.push, Stores.waiting, Queues.waiting_push_of_ne ht]
  | consume t wait hwait =>
    cases hw : s.waiting t with
    | nil =>
      simp only [carryOut, inMemory_take_of_nil hw]
      exact List.append_nil _
    | cons p ps =>
      simp only [carryOut, inMemory_take_of_cons hw]
      by_cases ht : topic = t
      · subst ht
        rw [hw]
        simp [arrived, handedOut, Stores.waiting, Queues.waiting, Named.lookup_put_self]
      · simp [arrived, handedOut, Ne.symm ht, Stores.waiting, Queues.waiting, Named.lookup_put_of_ne ht]
  | pass span => exact List.append_nil _

/-- What waited and what came is what was handed out and what still waits, in this order. -/
theorem inMemory_serve (os : List Order) (s : Stores) (topic : String) :
    s.waiting topic ++ arrived topic (inMemory.serve lifetime os s).1 =
      handedOut topic (inMemory.serve lifetime os s).1 ++ (inMemory.serve lifetime os s).2.waiting topic := by
  induction os generalizing s with
  | nil => exact List.append_nil _
  | cons o os ih =>
    simp only [serve]
    rw [arrived_cons, handedOut_cons, ← List.append_assoc, inMemory_carryOut, List.append_assoc, ih, List.append_assoc]

/-- Whoever consumes gets what waits first. -/
theorem inMemory_consume (s : Stores) (topic : String) (wait : Nat) (hwait : 0 < wait) :
    (inMemory.carryOut lifetime (.consume topic wait hwait) s).1 = .consumed (.ok (s.waiting topic).head?) := by
  cases hw : s.waiting topic with
  | nil =>
    simp only [carryOut, inMemory_take_of_nil hw]
    rfl
  | cons p ps =>
    simp only [carryOut, inMemory_take_of_cons hw]
    rfl

/-- Whoever consumes gets the first payload that waited or came and has not been handed out. -/
theorem inMemory_consumed {os : List Order} {s : Stores} {before after : List (Order × Reply)} {topic : String}
    {wait : Nat} {hwait : 0 < wait} {r : Reply}
    (h : (inMemory.serve lifetime os s).1 = before ++ (.consume topic wait hwait, r) :: after) :
    r = .consumed (.ok ((s.waiting topic ++ arrived topic before).drop (handedOut topic before).length).head?) := by
  induction os generalizing s before with
  | nil => simp [serve] at h
  | cons o os ih =>
    simp only [serve] at h
    cases before with
    | nil =>
      rw [List.nil_append, List.cons.injEq, Prod.mk.injEq] at h
      obtain ⟨⟨rfl, rfl⟩, -⟩ := h
      rw [inMemory_consume]
      simp [arrived, handedOut]
    | cons x before =>
      rw [List.cons_append, List.cons.injEq] at h
      obtain ⟨rfl, h⟩ := h
      rw [ih h, arrived_cons, handedOut_cons, ← List.append_assoc, inMemory_carryOut, List.append_assoc,
        List.length_append, List.drop_length_add_append]

theorem map_fst_serve {σ : Type} (d : Depot σ) (os : List Order) (s : σ) :
    (d.serve lifetime os s).1.map Prod.fst = os := by
  induction os generalizing s with
  | nil => rfl
  | cons o os ih =>
    simp only [serve, List.map_cons, ih]

/-- **One server does for the guard and the queues what stores of their own do.** From any moment on, let names be
checked and marked, payloads produced and consumed and time pass in any order, with a guard that keeps markers for whole
seconds, at least one. Then a server that begins with no keys replies to everything as empty stores in memory do. The
payloads that come to a topic are those that were handed out and those that still wait, in the order in which they came,
and the server has those that wait in the list under the key of the topic, the latest one in front. Whoever consumes
gets the first payload of the topic that has not been handed out. And whatever characters they are made of, different names
have different keys, so have different topics, and no key of a name is the key of a topic. -/
theorem shared_server (moment : Nat) {seconds : Nat} (hseconds : 1 ≤ seconds) (orders : List Order) :
    (∃ log srv mem,
      onServer.serve (1000 * seconds) orders { Server.new with now := moment } = (log, srv) ∧
      inMemory.serve (1000 * seconds) orders { Stores.ofChannels [] with now := moment } = (log, mem) ∧
      log.map Prod.fst = orders ∧
      (∀ topic, arrived topic log = handedOut topic log ++ mem.waiting topic ∧
        srv.keys.elements? srv.now (queueKey topic) = some (mem.waiting topic).reverse) ∧
      ∀ before topic wait hwait r after, log = before ++ (.consume topic wait hwait, r) :: after →
        r = .consumed (.ok ((arrived topic before).drop (handedOut topic before).length).head?)) ∧
    (∀ u v, Octets.ofText (Guard.key u) = Octets.ofText (Guard.key v) → u = v) ∧
    (∀ s t, Octets.ofText (queueKey s) = Octets.ofText (queueKey t) → s = t) ∧
    ∀ uuid topic, Octets.ofText (Guard.key uuid) ≠ Octets.ofText (queueKey topic) := by
  refine ⟨?_, fun u v h => Guard.key_injective (Octets.ofText_injective h),
    fun s t h => queueKey_injective (Octets.ofText_injective h),
    fun uuid topic h => guardKey_ne_queueKey uuid topic (Octets.ofText_injective h)⟩
  obtain ⟨hreplies, hend⟩ := (mirrors_new moment).serve hseconds orders
  refine ⟨_, _, _, rfl, Prod.ext hreplies.symm rfl, map_fst_serve _ _ _, fun topic => ⟨?_, ?_⟩, ?_⟩
  · rw [hreplies]
    exact inMemory_serve orders { Stores.ofChannels [] with now := moment } topic
  · exact hend.queues topic _ (Nat.le_of_eq hend.moment.symm)
  · intro before topic wait hwait r after hlog
    rw [hreplies] at hlog
    exact inMemory_consumed hlog

/-- A topic that is spelt like a key of the guard, a marker that is asked for just before and just after it expires, and
somebody who waits in vain. -/
def errands : List Order :=
  [.mark "n" "m", .produce "t" [2], .produce (Guard.key "n") [1], .pass 1994, .consume "t" 5 (by decide),
    .consume "t" 5 (by decide), .check "n", .pass 1, .check "n", .consume (Guard.key "n") 5 (by decide)]

theorem shared_server_errands :
    1 ≤ 2 ∧ (onServer.serve (1000 * 2) errands { Server.new with now := 7 }).1.map Prod.snd =
      [.marked (.ok ()), .produced (.ok ()), .produced (.ok ()), .passed, .consumed (.ok (some [2])),
        .consumed (.ok none), .checked (.ok true), .passed, .checked (.ok false), .consumed (.ok (some [1]))] := by
  refine ⟨by decide, ?_⟩
  obtain ⟨⟨log, srv, mem, hsrv, hmem, -⟩, -⟩ := shared_server 7 (show 1 ≤ 2 by decide) errands
  have hlog : log = (inMemory.serve (1000 * 2) errands { Stores.ofChannels [] with now := 7 }).1 := by rw [hmem]
  rw [hsrv, hlog]
  rfl

end Depot

end Courier
