import Courier.Proofs.Happenings
import Courier.Proofs.Keyspace
import Courier.Proofs.SubmissionPaths
import Courier.Proofs.TokenRoutes
import Courier.Proofs.WireRoundTrip

/-!
# The status of a submission tells the truth

An authenticated request to submit a notification goes through the lookup of its token and then through what its body
asks for (`respond_unfolds`): nothing, or one of the paths of a submission. A path decides the status (`statusOf`). What
its exchanges leave behind follows from what each answered call leaves alone: the keys (`keys_of_happen`) or at least
what waits on the topics (`waiting?_of_happen`), all but what is pushed at its end (`pushes_of_ok`). `Truthful` says for
every status when it is given and what has happened then, and `status_tells_truth` that this holds of every answer, also
when calls fail on the way.
-/

namespace Courier

open Api Exchange

/-! ## Statuses -/

/-- The status of the answer to a submission. -/
def statusOf : Except RelayError Notification → Nat
  | .ok _ => 200
  | .error e => e.toService.status

/-- A hand-off that fails is answered as a conflict when its name is taken, and as unavailable otherwise. -/
theorem Handoff.Fails.status_cases {h : Handoff} {steps : List Exchange} {e : RelayError} (hf : h.Fails steps e) :
    (e = .alreadySubmitted h.uuid ∧ e.toService.status = 409) ∨
      (∀ uuid, e ≠ .alreadySubmitted uuid) ∧ e.toService.status = 503 := by
  rcases hf.error_eq with rfl | ⟨x, rfl⟩ | ⟨x, rfl⟩
  · exact .inl ⟨rfl, rfl⟩
  · exact .inr ⟨nofun, rfl⟩
  · exact .inr ⟨nofun, rfl⟩

namespace Submission.Path

variable {sub : Submission} {request : Request} {es : List Exchange} {a : Except RelayError Notification}

theorem statusOf_mem (h : sub.Path request es a) : statusOf a ∈ [200, 400, 409, 503] := by
  cases h with
  | refused hcheck => simp [statusOf, RelayError.toService, ServiceError.status]
  | unresolved hcheck hlookups hfailed reason => simp [statusOf, RelayError.toService, ServiceError.status]
  | failed hcheck hlookups hok hsteps reply =>
    rcases hsteps.status_cases with ⟨-, hstatus⟩ | ⟨-, hstatus⟩ <;> simp [statusOf, hstatus]
  | queued hcheck hlookups hok hm => simp [statusOf]

theorem statusOf_eq_200_iff (h : sub.Path request es a) : statusOf a = 200 ↔ ∃ n, a = .ok n := by
  constructor
  · intro hstatus
    cases h with
    | refused hcheck => cases hstatus
    | unresolved hcheck hlookups hfailed reason => cases hstatus
    | failed hcheck hlookups hok hsteps reply =>
      rcases hsteps.status_cases with ⟨-, hfailed⟩ | ⟨-, hfailed⟩ <;> cases hstatus.symm.trans hfailed
    | queued hcheck hlookups hok hm => exact ⟨_, rfl⟩
  · rintro ⟨n, rfl⟩
    rfl

theorem statusOf_eq_400_iff (h : sub.Path request es a) : statusOf a = 400 ↔ ∃ f, request.check = .error f := by
  cases h with
  | refused hcheck => exact ⟨fun _ => ⟨_, hcheck⟩, fun _ => rfl⟩
  | unresolved hcheck hlookups hfailed reason =>
    simp [statusOf, RelayError.toService, ServiceError.status, hcheck]
  | failed hcheck hlookups hok hsteps reply =>
    rcases hsteps.status_cases with ⟨-, hstatus⟩ | ⟨-, hstatus⟩ <;> simp [statusOf, hstatus, hcheck]
  | queued hcheck hlookups hok hm => simp [statusOf, hcheck]

theorem statusOf_eq_409_iff (h : sub.Path request es a) :
    statusOf a = 409 ↔ a = .error (.alreadySubmitted request.uuid) := by
  cases h with
  | refused hcheck => simp [statusOf, RelayError.toService, ServiceError.status]
  | unresolved hcheck hlookups hfailed reason => simp [statusOf, RelayError.toService, ServiceError.status]
  | failed hcheck hlookups hok hsteps reply =>
    rcases hsteps.status_cases with ⟨htaken, hstatus⟩ | ⟨hother, hstatus⟩
    · exact ⟨fun _ => congrArg _ htaken, fun _ => hstatus⟩
    · simp [statusOf, hstatus, hother]
  | queued hcheck hlookups hok hm => simp [statusOf]

theorem statusOf_eq_503_iff (h : sub.Path request es a) :
    statusOf a = 503 ↔ ∃ x ∈ es, x.call.IsNeeded ∧ x.isOk = false := by
  rw [← h.unavailable_iff]
  cases a with
  | ok n => simp [statusOf]
  | error e => simp [statusOf]

end Submission.Path

/-! ## What exchanges leave on the server -/

namespace Service

/-- The payloads that wait on a topic, the latest first; none when there is a text in their place. -/
def waiting? (s : Service) (topic : String) : Option (List Octets) :=
  s.redis.keys.elements? s.redis.now (Redis.queueKey topic)

/-- The guard holds a marker for a name: a text that has not expired and is not empty. -/
def HoldsMarker (s : Service) (uuid : String) : Prop :=
  ∃ m, s.redis.keys.text? s.redis.now (Guard.key uuid) = some (some m) ∧ (Octets.text? m).isSome ∧ m ≠ []

/-- A message has been pushed onto the topic of the service, and nothing else onto any. -/
structure Pushes (s t : Service) (message : Octets) : Prop where
  pushed : ∃ ms, s.waiting? s.config.submission.topic = some ms ∧
    t.waiting? s.config.submission.topic = some (message :: ms)
  others : ∀ topic, topic ≠ s.config.submission.topic → t.waiting? topic = s.waiting? topic

variable {s t : Service} {es : List Exchange}

theorem exchange_redis {α : Type} (s : Service) (post : Except String Outgoing)
    (judge : Outgoing → Incoming → Except String α) : (s.exchange post judge).2.redis = s.redis := by
  unfold exchange
  split
  · rfl
  · split <;> rfl

/-- A call does to the server what it does to the server by itself. -/
theorem answer_redis (c : Call) (s : Service) : (answer c s).2.redis = (s.redis.answer c).2 := by
  cases c with
  | sendEmail e => exact s.exchange_redis _ _
  | post url body => exact s.exchange_redis _ _
  | readMarker | keepMarker | enqueue => rfl
  | _ =>
    cases h : s.database.fault with
    | some e =>
      simp only [answer, Database.answer?, Database.statement_of_fault h]
      rfl
    | none =>
      simp only [answer, Database.answer?, Database.statement_of_none h]
      rfl

/-- A call that does not write leaves the keys alone. -/
theorem answer_keys {c : Call} (hc : ¬ c.Writes) (s : Service) :
    (answer c s).2.redis.keys = s.redis.keys ∧ (answer c s).2.redis.now = s.redis.now := by
  rw [answer_redis]
  cases c with
  | readMarker key => exact s.redis.readMarker_keys key
  | keepMarker => exact absurd trivial hc
  | enqueue => exact absurd trivial hc
  | _ => exact ⟨rfl, rfl⟩

/-- A call for a name by which nothing is appended leaves the topics alone. -/
theorem answer_waiting? {c : Call} {uuid : String} (hc : c.Concerns uuid) {s : Service}
    (happended : appended? ⟨c, (answer c s).1⟩ = none) :
    (answer c s).2.redis.now = s.redis.now ∧ ∀ topic, (answer c s).2.waiting? topic = s.waiting? topic := by
  by_cases hwrites : c.Writes
  · simp only [waiting?, answer_redis]
    cases c with
    | keepMarker key marker lifetime =>
      cases hc
      have hnow := s.redis.keepMarker_now (Guard.key uuid) marker lifetime
      refine ⟨hnow, fun topic => ?_⟩
      have hkey : Redis.queueKey topic ≠ Guard.key uuid := (Redis.guardKey_ne_queueKey uuid topic).symm
      exact (congrArg (Redis.Keyspace.elements? _ · _) hnow).trans
        (Redis.Server.elements?_keepMarker hkey s.redis marker lifetime s.redis.now)
    | enqueue topic payload =>
      rcases s.redis.enqueue_cases topic payload with ⟨e, -, hkeys, hnow⟩ | ⟨ms, -, hok, -⟩
      · refine ⟨hnow, fun other => ?_⟩
        show Redis.Keyspace.elements? (s.redis.enqueue topic payload).2.keys (s.redis.enqueue topic payload).2.now _ = _
        rw [hkeys, hnow]
      · have hreply : (answer (.enqueue topic payload) s).1 = .ok () := hok
        rw [hreply] at happended
        cases happended
    | _ => exact hwrites.elim
  · obtain ⟨hkeys, hnow⟩ := answer_keys hwrites s
    refine ⟨hnow, fun topic => ?_⟩
    rw [waiting?, waiting?, hkeys, hnow]

/-- A payload that is accepted is the latest one on its topic, and the other topics are left alone. -/
theorem answer_enqueue {topic : String} {payload : Octets} {s : Service}
    (hok : (answer (.enqueue topic payload) s).1 = .ok ()) :
    ∃ ms, s.waiting? topic = some ms ∧
      (answer (.enqueue topic payload) s).2.waiting? topic = some (payload :: ms) ∧
      ∀ other, other ≠ topic → (answer (.enqueue topic payload) s).2.waiting? other = s.waiting? other := by
  rcases s.redis.enqueue_cases topic payload with ⟨e, he, -⟩ | ⟨ms, hms, -, hkeys, hnow⟩
  · cases he.symm.trans hok
  · have hwaiting : ∀ other, (answer (.enqueue topic payload) s).2.waiting? other =
        Redis.Keyspace.elements? (Named.put s.redis.keys (Redis.queueKey topic) (.list (payload :: ms))) s.redis.now
          (Redis.queueKey other) := fun other => by
      rw [waiting?, answer_redis, ← hkeys, ← hnow]
      rfl
    refine ⟨ms, hms, (hwaiting _).trans (Redis.Keyspace.elements?_put_list _ _ _ _), fun other hne => ?_⟩
    rw [hwaiting, Redis.Keyspace.elements?_put_of_ne fun hk => hne (Redis.queueKey_injective hk)]
    rfl

/-- Exchanges without a call that writes leave the keys alone. -/
theorem keys_of_happen (h : Happen answer es s t) (hes : ∀ x ∈ es, ¬ x.call.Writes) :
    t.redis.keys = s.redis.keys ∧ t.redis.now = s.redis.now := by
  refine h.keeps (I := fun u => u.redis.keys = s.redis.keys ∧ u.redis.now = s.redis.now) (fun x hx u _ hu => ?_)
    ⟨rfl, rfl⟩
  obtain ⟨hkeys, hnow⟩ := answer_keys (hes x hx) u
  exact ⟨hkeys.trans hu.1, hnow.trans hu.2⟩

/-- Exchanges for a name by which nothing is appended leave the topics alone. -/
theorem waiting?_of_happen (h : Happen answer es s t) {uuid : String} (hes : ∀ x ∈ es, x.call.Concerns uuid)
    (happended : appended es = []) :
    t.redis.now = s.redis.now ∧ ∀ topic, t.waiting? topic = s.waiting? topic := by
  refine h.keeps (I := fun u => u.redis.now = s.redis.now ∧ ∀ topic, u.waiting? topic = s.waiting? topic)
    (fun x hx u hreply hu => ?_) ⟨rfl, fun _ => rfl⟩
  have hnone : appended? ⟨x.call, (answer x.call u).1⟩ = none := by
    rw [hreply]
    exact List.filterMap_eq_nil_iff.mp happended x hx
  obtain ⟨hnow, hwaiting⟩ := answer_waiting? (hes x hx) hnone
  exact ⟨hnow.trans hu.1, fun topic => (hwaiting topic).trans (hu.2 topic)⟩

/-- What has been pushed can be told from the topics. -/
theorem not_pushes (h : ∀ topic, t.waiting? topic = s.waiting? topic) (message : Octets) : ¬ s.Pushes t message := by
  rintro ⟨⟨ms, hs, ht⟩, -⟩
  have heq : ms = message :: ms := Option.some.inj (hs.symm.trans ((h _).symm.trans ht))
  exact absurd (congrArg List.length heq) (Nat.ne_of_lt (Nat.lt_succ_self _))

theorem Pushes.unique {message message' : Octets} (h : s.Pushes t message) (h' : s.Pushes t message') :
    message = message' := by
  obtain ⟨ms, -, ht⟩ := h.pushed
  obtain ⟨ms', -, ht'⟩ := h'.pushed
  exact (List.cons.inj (Option.some.inj (ht.symm.trans ht'))).1

/-! ## What a submission leaves -/

section Submissions

variable {sub : Submission} {request : Request} {a : Except RelayError Notification}

/-- A submission that ends with an error leaves the topics alone. -/
theorem waiting?_of_error {e : RelayError} (hpath : sub.Path request es (.error e)) (h : Happen answer es s t) :
    ∀ topic, t.waiting? topic = s.waiting? topic :=
  (waiting?_of_happen h hpath.concerns hpath.appended_of_error).2

/-- A submission that ends well pushes the text of its notification. -/
theorem pushes_of_ok {n : Notification} (hpath : s.config.submission.Path request es (.ok n))
    (h : Happen answer es s t) : s.Pushes t (Wire.encode n) ∧ n.uuid = request.uuid ∧ n.retries = 0 := by
  have hconcerns := hpath.concerns
  cases hpath with
  | @queued event hcheck lookups hlookups hok channels m hm =>
    -- only the last of the calls appends something
    rw [List.append_cons, List.append_cons] at h hconcerns
    obtain ⟨u, hbefore, hlast⟩ := happen_append_iff.mp h
    obtain ⟨hbeforeConcerns, -⟩ := List.forall_mem_append.mp hconcerns
    have hnone : appended (lookups ++ [(s.config.submission.handoffOf request event channels).lookedUp (.ok m)] ++
        [(s.config.submission.handoffOf request event channels).marked (.ok ())]) = [] := by
      rw [appended, List.filterMap_append, List.filterMap_append,
        show lookups.filterMap appended? = [] from appended_of_lookups hlookups]
      rfl
    obtain ⟨hnow, hwaiting⟩ := waiting?_of_happen hbefore hbeforeConcerns hnone
    refine ⟨?_, rfl, rfl⟩
    rcases happen_cons_iff.mp hlast with ⟨hreply, hend⟩ | ⟨⟨e, he⟩, -⟩
    · obtain rfl := happen_nil_iff.mp hend
      obtain ⟨ms, hms, hpushed, hothers⟩ := answer_enqueue hreply.symm
      exact ⟨⟨ms, (hwaiting _).symm.trans hms, hpushed⟩, fun topic hne => (hothers topic hne).trans (hwaiting topic)⟩
    · cases he

/-- What the guard tells a submission is what it holds. -/
theorem isTaken_iff_holdsMarker (hpath : sub.Path request es a) (h : Happen answer es s t) {m : Option Octets}
    (hm : ⟨.readMarker (Guard.key request.uuid), .ok m⟩ ∈ es) :
    Guard.isTaken m = true ↔ s.HoldsMarker request.uuid := by
  obtain ⟨-, -, lookups, rest, rfl, hlookups⟩ := hpath.asked hm
  obtain ⟨u, hbefore, hasked⟩ := happen_append_iff.mp h
  obtain ⟨hkeys, hnow⟩ := keys_of_happen hbefore fun x hx => (hlookups x hx).not_writes
  rcases happen_cons_iff.mp hasked with ⟨hreply, -⟩ | ⟨⟨e, he⟩, -⟩
  · have hread : (u.redis.readMarker (Guard.key request.uuid)).1 = .ok m := hreply.symm
    obtain ⟨hheld, htext⟩ := Redis.Server.text?_of_readMarker hread
    rw [hkeys, hnow] at hheld
    constructor
    · intro htaken
      cases m with
      | none => cases htaken
      | some o =>
        refine ⟨o, hheld, htext o rfl, ?_⟩
        rintro rfl
        cases htaken
    · rintro ⟨o, ho, -, hne⟩
      obtain rfl : m = some o := Option.some.inj (hheld.symm.trans ho)
      simpa [Guard.isTaken] using hne
  · cases he

end Submissions

/-! ## The answer to a submission -/

/-- The body of a request is a notification to be submitted, and nothing is wrong with that. -/
structure Accepts (r : Http.Request) (request : Request) : Prop where
  declared : Api.declaresJson r = true
  read : Wire.decode r.body = .ok request
  checked : ∃ event, request.check = .ok event

/-- The status of the answer to a submission tells what its exchanges have done to a service, when they have led from
one state of it to another. -/
structure Truthful (s t : Service) (r : Http.Request) (es : List Exchange) (status : Nat) : Prop where
  among : status ∈ [200, 400, 409, 415, 422, 503]
  pushed : status = 200 ↔ ∃ message, s.Pushes t message
  /-- What has been pushed is the notification that the body asks for, which has not been tried yet. -/
  message : ∀ message, s.Pushes t message →
    ∃ (request : Request) (n : Notification), Accepts r request ∧ Wire.decode message = .ok n ∧
      n.uuid = request.uuid ∧ n.retries = 0
  spared : status ≠ 200 → ∀ topic, t.waiting? topic = s.waiting? topic
  undeclared : status = 415 ↔ Api.declaresJson r = false
  /-- The first problem in the body is that it says something else: a value of another kind, or a field twice or not
  at all. -/
  mismatched : status = 422 ↔ Api.declaresJson r = true ∧ Wire.decode (α := Request) r.body = .error .mismatch
  /-- The first problem in the body is that it does not go on as it has to, or what it says breaks a rule. -/
  improper : status = 400 ↔ Api.declaresJson r = true ∧
    ((∃ p, p ≠ .mismatch ∧ Wire.decode (α := Request) r.body = .error p) ∨
      ∃ (request : Request) (fault : RequestFault), Wire.decode r.body = .ok request ∧ request.check = .error fault)
  untouched : status ∈ [400, 415, 422] → ∃ n, t = s.tallied n
  taken : status = 409 ↔ ∃ request, Accepts r request ∧ (∀ x ∈ es, x.call.IsLookup → x.isOk = true) ∧
    (∃ m, ⟨.readMarker (Guard.key request.uuid), .ok m⟩ ∈ es) ∧ s.HoldsMarker request.uuid
  kept : status = 409 → t.redis.keys = s.redis.keys
  down : status = 503 ↔ ∃ x ∈ es, x.call.IsNeeded ∧ x.isOk = false

variable {r : Http.Request}

theorem Accepts.unique {request request' : Request} (h : Accepts r request) (h' : Wire.decode r.body = .ok request') :
    request = request' := Except.ok.inj (h.read.symm.trans h')

/-- A request whose body cannot be read does nothing. -/
theorem truthful_of_unread {response : Http.Response} (h : Api.bodyOf Request r = .error response) :
    Truthful s s r [] response.status := by
  have hnone : ∀ request, ¬ Accepts r request := fun request haccepts =>
    nomatch (bodyOf_eq_ok_iff.mpr ⟨haccepts.declared, haccepts.read⟩).symm.trans h
  have hpushes : ∀ message, ¬ s.Pushes s message := not_pushes fun _ => rfl
  unfold Api.bodyOf at h
  split at h
  · next hdeclares =>
    cases hdecode : Wire.decode (α := Request) r.body with
    | ok request =>
      rw [hdecode] at h
      cases h
    | error p =>
      rw [hdecode] at h
      cases h
      cases p <;> constructor <;>
        simp [Api.bodyRefusal, Http.Response.plain, hdeclares, hdecode, hnone, hpushes] <;>
        exact ⟨s.database.statements, rfl⟩
  · next hdeclares =>
    cases h
    constructor <;> simp [Http.Response.plain, hdeclares, hnone, hpushes]
    exact ⟨s.database.statements, rfl⟩

section Submissions

variable {request : Request} {a : Except RelayError Notification}

/-- A name is turned away just when the request is accepted, its channels and the guard can be asked, and the guard
holds a marker. -/
theorem taken_iff (hdeclares : Api.declaresJson r = true) (hdecode : Wire.decode r.body = .ok request)
    (hpath : s.config.submission.Path request es a) (h : Happen answer es s t) :
    statusOf a = 409 ↔ ∃ request, Accepts r request ∧ (∀ x ∈ es, x.call.IsLookup → x.isOk = true) ∧
      (∃ m, ⟨.readMarker (Guard.key request.uuid), .ok m⟩ ∈ es) ∧ s.HoldsMarker request.uuid := by
  constructor
  · intro hstatus
    obtain rfl := hpath.statusOf_eq_409_iff.mp hstatus
    obtain ⟨-, ⟨m, hm⟩, -⟩ := hpath.turned
    obtain ⟨hchecked, htaken, -⟩ := hpath.asked hm
    refine ⟨request, ⟨hdeclares, hdecode, hchecked⟩, fun x hx hlookup => ?_, ⟨m, hm⟩,
      (isTaken_iff_holdsMarker hpath h hm).mp (htaken.mpr rfl)⟩
    -- a lookup that failed would have ended the submission otherwise
    by_contra hfailed
    have hdown := hpath.statusOf_eq_503_iff.mpr ⟨x, hx, hlookup.isNeeded, Bool.eq_false_iff.mpr hfailed⟩
    cases hstatus.symm.trans hdown
  · rintro ⟨request', haccepts, -, ⟨m, hm⟩, hholds⟩
    obtain rfl := haccepts.unique hdecode
    obtain ⟨-, htaken, -⟩ := hpath.asked hm
    exact hpath.statusOf_eq_409_iff.mpr (htaken.mp ((isTaken_iff_holdsMarker hpath h hm).mpr hholds))

/-- What a submission does to the service is told by its status. -/
theorem truthful_of_path (hdeclares : Api.declaresJson r = true) (hdecode : Wire.decode r.body = .ok request)
    (hpath : s.config.submission.Path request es a) (h : Happen answer es s t) : Truthful s t r es (statusOf a) where
  among := by
    have hmem := hpath.statusOf_mem
    simp only [List.mem_cons, List.not_mem_nil, or_false] at hmem ⊢
    omega
  pushed := by
    rw [hpath.statusOf_eq_200_iff]
    cases a with
    | ok n => exact ⟨fun _ => ⟨_, (pushes_of_ok hpath h).1⟩, fun _ => ⟨n, rfl⟩⟩
    | error e =>
      refine ⟨?_, ?_⟩
      · rintro ⟨n, hn⟩
        cases hn
      · rintro ⟨message, hpushes⟩
        exact absurd hpushes (not_pushes (waiting?_of_error hpath h) message)
  message := by
    intro message hpushes
    cases a with
    | error e => exact absurd hpushes (not_pushes (waiting?_of_error hpath h) message)
    | ok n =>
      obtain ⟨hpushed, huuid, hretries⟩ := pushes_of_ok hpath h
      obtain rfl := hpushes.unique hpushed
      refine ⟨request, n, ⟨hdeclares, hdecode, ?_⟩, decode_encode_notification n, huuid, hretries⟩
      cases hcheck : request.check with
      | ok event => exact ⟨event, rfl⟩
      | error fault => exact nomatch hpath.statusOf_eq_400_iff.mpr ⟨fault, hcheck⟩
  spared := by
    intro hstatus
    cases a with
    | ok n => exact absurd rfl hstatus
    | error e => exact waiting?_of_error hpath h
  undeclared := by
    have hmem := hpath.statusOf_mem
    rw [hdeclares]
    refine ⟨fun hstatus => ?_, nofun⟩
    simp [hstatus] at hmem
  mismatched := by
    have hmem := hpath.statusOf_mem
    rw [hdecode]
    refine ⟨fun hstatus => ?_, fun hmismatch => nomatch hmismatch.2⟩
    simp [hstatus] at hmem
  improper := by
    rw [hpath.statusOf_eq_400_iff]
    simp [hdeclares, hdecode]
  untouched := by
    intro hstatus
    have hmem := hpath.statusOf_mem
    have hrefused : statusOf a = 400 := by
      simp only [List.mem_cons, List.not_mem_nil, or_false] at hstatus hmem
      omega
    obtain ⟨fault, hfault⟩ := hpath.statusOf_eq_400_iff.mp hrefused
    cases hpath with
    | refused hcheck =>
      obtain rfl := happen_nil_iff.mp h
      exact ⟨t.database.statements, rfl⟩
    | unresolved hcheck => cases hcheck.symm.trans hfault
    | failed hcheck => cases hcheck.symm.trans hfault
    | queued hcheck => cases hcheck.symm.trans hfault
  taken := taken_iff hdeclares hdecode hpath h
  kept := by
    intro hstatus
    obtain rfl := hpath.statusOf_eq_409_iff.mp hstatus
    exact (keys_of_happen h hpath.turned.2.2).1
  down := hpath.statusOf_eq_503_iff

end Submissions

/-! ## Authenticated requests -/

theorem answer_findToken (s : Service) (token : String) : answer (.findToken token) s =
    match s.database.fault with
    | some e => (.error (Database.errorText e), s)
    | none => (.ok (s.database.tokens.find token), s.tallied (s.database.statements + 1)) := by
  simp only [answer, Database.answer?]
  cases h : s.database.fault with
  | some e => rw [Database.statement_of_fault h]
  | none =>
    rw [Database.statement_of_none h]
    rfl

/-- A request that carries a registered token is let in when the token can be looked up. -/
theorem admitted_of_carriesToken (hcarries : Api.CarriesToken s.database.tokens.rows r)
    {a : Except ServiceError Unit} (hcheck : (Api.checkToken r).Unfolds es a) (h : Happen answer es s t)
    (hfound : ∀ token e, ⟨.findToken token, .error e⟩ ∉ es) :
    a = .ok () ∧ ∃ token reply n, es = [⟨.findToken token, reply⟩] ∧ t = s.tallied n := by
  obtain ⟨row, hrow, hpresents⟩ := hcarries
  unfold Api.checkToken Registration.findToken at hcheck
  rw [Api.presentedToken_eq_some_iff.mpr hpresents] at hcheck
  obtain ⟨reply, ys, rfl, hrest⟩ := Plan.unfolds_ask_iff.mp hcheck
  rcases happen_cons_iff.mp h with ⟨hreply, hlater⟩ | ⟨⟨e, rfl⟩, -⟩
  · rw [answer_findToken] at hreply hlater
    cases hfault : s.database.fault with
    | some e =>
      rw [hfault] at hreply
      exact absurd (hreply ▸ List.mem_cons_self) (hfound row.token (Database.errorText e))
    | none =>
      rw [hfault] at hreply hlater
      cases hfind : s.database.tokens.find row.token with
      | none => exact absurd ⟨row, hrow, rfl⟩ (Memory.Tokens.find_eq_none_iff.mp hfind)
      | some found =>
        rw [hreply, hfind] at hrest
        obtain ⟨rfl, rfl⟩ := Plan.unfolds_done_iff.mp hrest
        exact ⟨rfl, row.token, reply, _, rfl, happen_nil_iff.mp hlater⟩
  · exact absurd List.mem_cons_self (hfound _ e)

/-- The lookup of a token does not matter to what the status tells. -/
theorem Truthful.after_check {n status : Nat} (h : Truthful (s.tallied n) t r es status) (token : String)
    (reply : Call.Reply (.findToken token)) : Truthful s t r (⟨.findToken token, reply⟩ :: es) status where
  among := h.among
  pushed := h.pushed.trans (exists_congr fun _ => ⟨fun ⟨hp, ho⟩ => ⟨hp, ho⟩, fun ⟨hp, ho⟩ => ⟨hp, ho⟩⟩)
  message message hpushes := h.message message ⟨hpushes.pushed, hpushes.others⟩
  spared := h.spared
  undeclared := h.undeclared
  mismatched := h.mismatched
  improper := h.improper
  untouched := h.untouched
  taken := by
    have hlookups : (∀ x ∈ (⟨.findToken token, reply⟩ : Exchange) :: es, x.call.IsLookup → x.isOk = true) ↔
        ∀ x ∈ es, x.call.IsLookup → x.isOk = true := by
      simp [Call.IsLookup]
    have hasked : ∀ key m, (⟨.readMarker key, .ok m⟩ : Exchange) ∈ (⟨.findToken token, reply⟩ : Exchange) :: es ↔
        (⟨.readMarker key, .ok m⟩ : Exchange) ∈ es := by
      simp
    rw [h.taken]
    simp only [hlookups, hasked]
    rfl
  kept := h.kept
  down := by
    rw [h.down]
    simp [Call.IsNeeded]

/-- An authenticated request to submit a notification goes through the lookup of its token and then through what its
body asks for. -/
theorem respond_unfolds {c : Api.Config} {written : List Char} {response : Http.Response} (hmethod : r.method = "POST")
    (hroute : Api.route? r.path = some (.notifications, written)) (h : (Api.respond c r).Unfolds es response) :
    ∃ a xs ys, es = xs ++ ys ∧ (Api.checkToken r).Unfolds xs a ∧
      (a = .ok () → (Api.withBody r (Api.submitRequest c)).Unfolds ys response) := by
  obtain rfl := Api.written_eq_nil hroute rfl
  have hendpoint : Api.Route.notifications.endpoint? r.method = some .submit := by
    rw [hmethod]
    rfl
  have hnothead : r.method ≠ "HEAD" := by
    rw [hmethod]
    decide
  unfold Api.respond Api.answerInFull at h
  simp only [hroute, hendpoint, hnothead, if_false, Api.Endpoint.answer] at h
  obtain ⟨b, xs, ys, rfl, hxs, hys⟩ := Plan.unfolds_bind_iff.mp h
  obtain ⟨rfl, rfl⟩ := Plan.unfolds_done_iff.mp hys
  obtain ⟨a, xs, ys, rfl, hcheck, hrest⟩ := Plan.unfolds_bind_iff.mp hxs
  refine ⟨a, xs, ys, List.append_nil _, hcheck, ?_⟩
  rintro rfl
  exact hrest

/-- What a body asks for is told by the status of the answer. -/
theorem truthful_of_withBody {response : Http.Response}
    (h : (Api.withBody r (Api.submitRequest s.config)).Unfolds es response) (hhappen : Happen answer es s t) :
    Truthful s t r es response.status := by
  unfold Api.withBody at h
  cases hbody : Api.bodyOf Request r with
  | error refusal =>
    rw [hbody] at h
    obtain ⟨rfl, rfl⟩ := Plan.unfolds_done_iff.mp h
    obtain rfl := happen_nil_iff.mp hhappen
    exact truthful_of_unread hbody
  | ok request =>
    rw [hbody] at h
    obtain ⟨hdeclares, hdecode⟩ := bodyOf_eq_ok_iff.mp hbody
    obtain ⟨a, xs, ys, rfl, hcreate, hanswer⟩ := Plan.unfolds_bind_iff.mp h
    obtain ⟨rfl, rfl⟩ := Plan.unfolds_done_iff.mp hanswer
    rw [List.append_nil] at hhappen ⊢
    have htruthful := truthful_of_path hdeclares hdecode (Submission.create_path hcreate) hhappen
    cases a <;> exact htruthful

/-- **The status of a submission tells the truth.** Let a request to submit a notification carry a registered token
which can be looked up, whatever else it says, and let any of the calls that it causes fail without an effect. Then the
status 200 means that one message has been pushed onto the topic of the service, and the message is a notification of
the name in the body that has not been tried yet; with any other status nothing has been pushed. A body that is not
declared as JSON, cannot be read, says something else or breaks a rule is answered by 415, 400, 422 or 400, and then all
but the count of statements is as it was. The status 409 means that the body was accepted, the channels and the guard
could be asked, and the guard held a marker of the name; then no key has changed. The status 503 means that a call to
the channels, the guard or the queue has failed. The endpoint gives no other answers; the limit that a server may set on
the time of an answer lies outside of it, and so does the 408 that is sent in place of an answer that comes too late,
after which a hand-off that has begun still goes on. -/
theorem status_tells_truth {s t : Service} {r : Http.Request} {written : List Char} {es : List Exchange}
    {response : Http.Response} (hmethod : r.method = "POST")
    (hroute : Api.route? r.path = some (.notifications, written))
    (hcarries : Api.CarriesToken s.database.tokens.rows r) (hfound : ∀ token e, ⟨.findToken token, .error e⟩ ∉ es)
    (hunfolds : (Api.respond s.config r).Unfolds es response) (hhappen : Happen answer es s t) :
    Truthful s t r es response.status := by
  obtain ⟨a, xs, ys, rfl, hcheck, hact⟩ := respond_unfolds hmethod hroute hunfolds
  obtain ⟨u, hxs, hys⟩ := happen_append_iff.mp hhappen
  obtain ⟨rfl, token, reply, n, rfl, rfl⟩ := admitted_of_carriesToken hcarries hcheck hxs fun token e hmem =>
    hfound token e (List.mem_append_left _ hmem)
  have htruthful : Truthful (s.tallied n) t r ys response.status := truthful_of_withBody (hact rfl) hys
  exact htruthful.after_check token reply

/-- What is asked for in an example. -/
def payment : Request := ⟨"a", "Payment", "", ["ops"], some ⟨"approved", "EUR", "ann", "bob", "transfer", 1, 100⟩⟩

/-- A request with a token for what is asked for. -/
def paymentAsked : Http.Request :=
  ⟨"POST", "/api/v1/notification", [("authorization", "Bearer open"), ("content-type", "application/json")],
    Wire.encode payment⟩

/-- A service that holds nothing but its token pushes what it is asked for. -/
theorem status_tells_truth_latched : ∃ message, ∃ n : Notification,
    (latched "key" .empty).Pushes ((latched "key" .empty).respond paymentAsked).2 message ∧
      Wire.decode message = .ok n ∧ n.uuid = "a" ∧ n.retries = 0 := by
  have hexchanges : ∃ row groups key marker lifetime topic payload,
      (Api.respond (latched "key" .empty).config paymentAsked).exchanges answer (latched "key" .empty) =
        [⟨.findToken "open", .ok (some row)⟩, ⟨.channelsInGroups groups, .ok []⟩, ⟨.readMarker key, .ok none⟩,
          ⟨.keepMarker key marker lifetime, .ok ()⟩, ⟨.enqueue topic payload, .ok ()⟩] :=
    ⟨_, _, _, _, _, _, _, rfl⟩
  have hpresented : Api.presentedToken paymentAsked = some "open" := by decide
  have htruthful := status_tells_truth (s := latched "key" .empty) (r := paymentAsked) rfl rfl
    ⟨_, List.mem_singleton_self _, Api.presentedToken_eq_some_iff.mp hpresented⟩
    (fun token e hmem => by
      obtain ⟨row, groups, key, marker, lifetime, topic, payload, heq⟩ := hexchanges
      rw [heq] at hmem
      simp only [List.mem_cons, Exchange.mk.injEq, Call.findToken.injEq, reduceCtorEq, List.not_mem_nil, false_and,
        or_false] at hmem
      obtain ⟨rfl, hreply⟩ := hmem
      cases hreply)
    (Plan.unfolds_run _ answer _) (happen_run answer _ _)
  have hstatus : ((latched "key" .empty).respond paymentAsked).1.status = 200 := by rfl
  obtain ⟨message, hpushes⟩ := htruthful.pushed.mp hstatus
  obtain ⟨request, n, haccepts, hread, huuid, hretries⟩ := htruthful.message message hpushes
  obtain rfl := haccepts.unique (show Wire.decode paymentAsked.body = .ok payment by rfl)
  exact ⟨message, n, hpushes, hread, huuid, hretries⟩

end Service

end Courier
