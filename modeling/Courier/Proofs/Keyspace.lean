import Courier.Guard
import Courier.Redis.Server

/-!
# Lists and texts on a Redis server

A queue needs a key that holds a list, and a marker one that holds a text; a key that holds nothing does for both. So a
key is read in two ways: as a list (`elements?`) and as a text (`text?`). What a command answers and what it leaves
behind follow from these readings (`execute_lpush`, `execute_brpop_of_nil`, `execute_brpop_of_concat`, `execute_get`).
So does what a server without faults replies to the calls of the guard and of the queues, and what such a call can do
on a server on which commands may fail (`request_cases`).
-/

namespace Courier.Redis

/-! ## Keys -/

theorem queueKey_injective {s t : String} (h : queueKey s = queueKey t) : s = t := by
  have h' := congrArg String.toList h
  simp only [queueKey, String.toList_append, List.append_cancel_left_eq] at h'
  exact String.toList_inj.mp h'

theorem guardKey_ne_queueKey (uuid topic : String) : Guard.key uuid ≠ queueKey topic := by
  intro h
  have h' := congrArg String.toList h
  simp only [Guard.key, Guard.keyStart, queueKey, String.toList_append] at h'
  exact absurd (List.head_eq_of_cons_eq h') (by decide)

/-! ## What a key holds -/

namespace Keyspace

variable {k : Keyspace} {now : Nat} {key other : String}

/-- The elements of the list under a key, the front first; none when the key holds a text. -/
def elements? (k : Keyspace) (now : Nat) (key : String) : Option (List Octets) :=
  match k.find now key with
  | none => some []
  | some (.list es) => some es
  | some (.text _ _) => none

/-- The text under a key, if there is one; none when the key holds a list. -/
def text? (k : Keyspace) (now : Nat) (key : String) : Option (Option Octets) :=
  match k.find now key with
  | none => some none
  | some (.text v _) => some (some v)
  | some (.list _) => none

/-! ## After a key is put -/

theorem find_put_of_ne (h : other ≠ key) (k : Keyspace) (a : Holding) (now : Nat) :
    find (Named.put k key a) now other = find k now other := by
  rw [find, find, Named.lookup_put_of_ne h]

theorem elements?_put_of_ne (h : other ≠ key) (k : Keyspace) (a : Holding) (now : Nat) :
    elements? (Named.put k key a) now other = elements? k now other := by
  rw [elements?, elements?, find_put_of_ne h]

theorem text?_put_of_ne (h : other ≠ key) (k : Keyspace) (a : Holding) (now : Nat) :
    text? (Named.put k key a) now other = text? k now other := by
  rw [text?, text?, find_put_of_ne h]

theorem elements?_put_list (k : Keyspace) (now : Nat) (key : String) (es : List Octets) :
    elements? (Named.put k key (.list es)) now key = some es := by
  rw [elements?, find, Named.lookup_put_self]

theorem text?_put_text (k : Keyspace) (now : Nat) (key : String) (v : Octets) (expires : Nat) :
    text? (Named.put k key (.text v (some expires))) now key = some (if now < expires then some v else none) := by
  rw [text?, find, Named.lookup_put_self]
  by_cases h : expires ≤ now
  · simp [h, Nat.not_lt.mpr h]
  · simp [h, Nat.lt_of_not_le h]

/-! ## Commands -/

theorem find_of_elements? {es : List Octets} (h : k.elements? now key = some es) :
    (k.find now key = none ∧ es = []) ∨ k.find now key = some (.list es) := by
  unfold elements? at h
  cases hf : k.find now key with
  | none =>
    rw [hf] at h
    exact .inl ⟨rfl, (Option.some.inj h).symm⟩
  | some a =>
    rw [hf] at h
    cases a with
    | text v e => cases h
    | list fs => exact .inr (congrArg _ (congrArg _ (Option.some.inj h)))

theorem find_of_text? {v : Option Octets} (h : k.text? now key = some v) :
    (k.find now key = none ∧ v = none) ∨ ∃ t e, k.find now key = some (.text t e) ∧ v = some t := by
  unfold text? at h
  cases hf : k.find now key with
  | none =>
    rw [hf] at h
    exact .inl ⟨rfl, (Option.some.inj h).symm⟩
  | some a =>
    rw [hf] at h
    cases a with
    | text t e => exact .inr ⟨t, e, rfl, (Option.some.inj h).symm⟩
    | list fs => cases h

theorem execute_lpush {es : List Octets} (h : k.elements? now key = some es) (v : Octets) :
    k.execute now (.lpush key v) = (.ok .okay, Named.put k key (.list (v :: es))) := by
  rcases find_of_elements? h with ⟨hf, rfl⟩ | hf
  · simp only [execute, hf]
  · simp only [execute, hf]

theorem execute_brpop_of_nil (h : k.elements? now key = some []) (wait : Nat) :
    k.execute now (.brpop key wait) = (.ok .nothing, k) := by
  rcases find_of_elements? h with ⟨hf, -⟩ | hf
  · simp only [execute, hf]
  · simp only [execute, hf, List.getLast?_nil]

theorem execute_brpop_of_concat {es : List Octets} {v : Octets} (h : k.elements? now key = some (es ++ [v]))
    (wait : Nat) :
    k.execute now (.brpop key wait) = (.ok (.value v), Named.put k key (.list es)) := by
  rcases find_of_elements? h with ⟨-, hnil⟩ | hf
  · exact absurd hnil (List.append_ne_nil_of_right_ne_nil es (List.cons_ne_nil v []))
  · simp only [execute, hf, List.getLast?_concat, List.dropLast_concat]

theorem execute_get {v : Option Octets} (h : k.text? now key = some v) :
    k.execute now (.get key) = (.ok (v.elim .nothing .value), k) := by
  rcases find_of_text? h with ⟨hf, rfl⟩ | ⟨t, e, hf, rfl⟩
  · simp only [execute, hf, Option.elim_none]
  · simp only [execute, hf, Option.elim_some]

/-- A list cannot be pushed to under a key that holds a text. -/
theorem execute_lpush_of_wrongKind (h : k.elements? now key = none) (v : Octets) :
    k.execute now (.lpush key v) = (.error wrongKind, k) := by
  unfold elements? at h
  cases hf : k.find now key with
  | none => simp [hf] at h
  | some a =>
    cases a with
    | text t e => simp only [execute, hf]
    | list es => simp [hf] at h

/-- A text cannot be read under a key that holds a list. -/
theorem execute_get_of_wrongKind (h : k.text? now key = none) : k.execute now (.get key) = (.error wrongKind, k) := by
  unfold text? at h
  cases hf : k.find now key with
  | none => simp [hf] at h
  | some a =>
    cases a with
    | text t e => simp [hf] at h
    | list es => simp only [execute, hf]

end Keyspace

/-! ## Calls -/

namespace Server

variable {s : Server}

/-- A server without faults carries every command out. -/
theorem request_of_faultless (h : s.faults = []) (c : Command) :
    s.request c =
      ((s.keys.execute s.now c).1, { s with keys := (s.keys.execute s.now c).2, received := c :: s.received }) := by
  unfold request
  rw [h]
  rfl

theorem readMarker_eq (h : s.faults = []) {key : String} {m : Option Octets} (hm : s.keys.text? s.now key = some m)
    (htext : ∀ o, m = some o → (Octets.text? o).isSome) :
    s.readMarker key = (.ok m, { s with received := .get key :: s.received }) := by
  unfold readMarker
  rw [request_of_faultless h, Keyspace.execute_get hm]
  cases m with
  | none => rfl
  | some o => simp only [Option.elim_some, htext o rfl, if_true]

theorem keepMarker_eq (h : s.faults = []) (key : String) (marker : Octets) (lifetime : Nat) :
    s.keepMarker key marker lifetime =
      (.ok (),
        { s with
          keys := Named.put s.keys key (.text marker (some (s.now + 1000 * max (lifetime / 1000) 1)))
          received := .setex key (max (lifetime / 1000) 1) marker :: s.received }) := by
  unfold keepMarker
  rw [request_of_faultless h]
  rfl

theorem enqueue_eq (h : s.faults = []) {topic : String} {es : List Octets}
    (hes : s.keys.elements? s.now (queueKey topic) = some es) (payload : Octets) :
    s.enqueue topic payload =
      (.ok (),
        { s with
          keys := Named.put s.keys (queueKey topic) (.list (payload :: es))
          received := .lpush (queueKey topic) payload :: s.received }) := by
  unfold enqueue
  rw [request_of_faultless h, Keyspace.execute_lpush hes]
  rfl

theorem dequeue_of_nil (h : s.faults = []) {topic : String} (hes : s.keys.elements? s.now (queueKey topic) = some [])
    (wait : Nat) :
    s.dequeue topic wait = (.ok none, { s with received := .brpop (queueKey topic) wait :: s.received }) := by
  unfold dequeue
  rw [request_of_faultless h, Keyspace.execute_brpop_of_nil hes]

theorem dequeue_of_concat (h : s.faults = []) {topic : String} {es : List Octets} {v : Octets}
    (hes : s.keys.elements? s.now (queueKey topic) = some (es ++ [v])) (wait : Nat) :
    s.dequeue topic wait =
      (.ok (some v),
        { s with
          keys := Named.put s.keys (queueKey topic) (.list es)
          received := .brpop (queueKey topic) wait :: s.received }) := by
  unfold dequeue
  rw [request_of_faultless h, Keyspace.execute_brpop_of_concat hes]

/-! ### Servers with faults -/

/-- A command fails and has no effect, or it is carried out. -/
theorem request_cases (s : Server) (c : Command) :
    (∃ e, s.request c = (.error e, { s with received := c :: s.received })) ∨
      s.request c =
        ((s.keys.execute s.now c).1, { s with keys := (s.keys.execute s.now c).2, received := c :: s.received }) := by
  unfold request
  cases h : s.faults.lookup c.name with
  | some e => exact .inl ⟨serverError e, by simp only [h]⟩
  | none => exact .inr (by simp only [h])

/-- Reading a marker changes no key. -/
theorem readMarker_keys (s : Server) (key : String) :
    (s.readMarker key).2.keys = s.keys ∧ (s.readMarker key).2.now = s.now := by
  have hstate : (s.readMarker key).2 = (s.request (.get key)).2 := by
    unfold readMarker
    split <;> simp_all
  rw [hstate]
  rcases s.request_cases (.get key) with ⟨e, h⟩ | h
  · rw [h]
    exact ⟨rfl, rfl⟩
  · rw [h]
    refine ⟨?_, rfl⟩
    simp only [Keyspace.execute]
    split <;> rfl

/-- A marker that is read is the text under the key. -/
theorem text?_of_readMarker {key : String} {m : Option Octets} (h : (s.readMarker key).1 = .ok m) :
    s.keys.text? s.now key = some m ∧ ∀ o, m = some o → (Octets.text? o).isSome := by
  unfold readMarker at h
  rcases s.request_cases (.get key) with ⟨e, hrequest⟩ | hrequest
  · rw [hrequest] at h
    cases h
  · rw [hrequest] at h
    cases htext : s.keys.text? s.now key with
    | none =>
      rw [Keyspace.execute_get_of_wrongKind htext] at h
      cases h
    | some v =>
      rw [Keyspace.execute_get htext] at h
      cases v with
      | none =>
        cases h
        exact ⟨rfl, nofun⟩
      | some o =>
        simp only [Option.elim_some] at h
        split at h
        · next ho =>
          cases h
          refine ⟨rfl, ?_⟩
          rintro _ ⟨⟩
          exact ho
        · cases h

theorem keepMarker_now (s : Server) (key : String) (marker : Octets) (lifetime : Nat) :
    (s.keepMarker key marker lifetime).2.now = s.now := by
  unfold keepMarker
  rcases s.request_cases (.setex key (max (lifetime / 1000) 1) marker) with ⟨e, hrequest⟩ | hrequest
  · rw [hrequest]
  · rw [hrequest]

/-- Keeping a marker leaves the lists under other keys alone. -/
theorem elements?_keepMarker {key other : String} (h : other ≠ key) (s : Server) (marker : Octets)
    (lifetime now : Nat) :
    (s.keepMarker key marker lifetime).2.keys.elements? now other = s.keys.elements? now other := by
  unfold keepMarker
  rcases s.request_cases (.setex key (max (lifetime / 1000) 1) marker) with ⟨e, hrequest⟩ | hrequest
  · rw [hrequest]
  · rw [hrequest]
    exact Keyspace.elements?_put_of_ne h s.keys _ now

/-- A payload is put at the front of the list of its topic, or refused. -/
theorem enqueue_cases (s : Server) (topic : String) (payload : Octets) :
    (∃ e, (s.enqueue topic payload).1 = .error e ∧ (s.enqueue topic payload).2.keys = s.keys ∧
      (s.enqueue topic payload).2.now = s.now) ∨
    ∃ es, s.keys.elements? s.now (queueKey topic) = some es ∧ (s.enqueue topic payload).1 = .ok () ∧
      (s.enqueue topic payload).2.keys = Named.put s.keys (queueKey topic) (.list (payload :: es)) ∧
      (s.enqueue topic payload).2.now = s.now := by
  unfold enqueue
  rcases s.request_cases (.lpush (queueKey topic) payload) with ⟨e, h⟩ | h
  · rw [h]
    exact .inl ⟨e, rfl, rfl, rfl⟩
  · rw [h]
    cases hes : s.keys.elements? s.now (queueKey topic) with
    | none =>
      rw [Keyspace.execute_lpush_of_wrongKind hes]
      exact .inl ⟨_, rfl, rfl, rfl⟩
    | some es =>
      rw [Keyspace.execute_lpush hes]
      exact .inr ⟨es, rfl, rfl, rfl, rfl⟩

end Server

end Courier.Redis
