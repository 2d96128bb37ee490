import Courier.Proofs.HandoffProgress
import Mathlib.Logic.ExistsUnique

/-!
# How submissions end

A submission that is carried out ends in one of four ways (`Ending`), whatever the collaborators answer and whichever
of them fail: it is refused before anything is called, its channels cannot be looked up, it is queued, or its hand-off
fails and is written down once. `Ending.Fits` says what each way means for the result and for the calls that were made,
and `create_fits_unique` that exactly one of them fits. A call that fails has no effect of its own, so what is appended
to queues is what accepted calls append (`appended`); what is written down counts whether it was accepted or not
(`drafts`).
-/

namespace Courier

variable {σ : Type}

/-! ## Effects of exchanges -/

def Call.IsLookup : Call → Prop
  | .channelsWithIds _ | .channelsInGroups _ => True
  | _ => False

namespace Exchange

/-- The topic and the payload of an accepted payload. -/
def appended? : Exchange → Option (String × Octets)
  | ⟨.enqueue topic payload, .ok _⟩ => some (topic, payload)
  | _ => none

/-- What was to be written down. -/
def draft? : Exchange → Option FailureDraft
  | ⟨.recordFailure d, _⟩ => some d
  | _ => none

/-- What exchanges append to queues. -/
def appended (es : List Exchange) : List (String × Octets) := es.filterMap appended?

/-- What exchanges are to write down. -/
def drafts (es : List Exchange) : List FailureDraft := es.filterMap draft?

theorem appended_of_lookups {es : List Exchange} (h : ∀ x ∈ es, x.call.IsLookup) : appended es = [] := by
  refine List.filterMap_eq_nil_iff.mpr fun x hx => ?_
  obtain ⟨c, r⟩ := x
  have hc := h _ hx
  cases c <;> first | rfl | exact hc.elim

theorem drafts_of_lookups {es : List Exchange} (h : ∀ x ∈ es, x.call.IsLookup) : drafts es = [] := by
  refine List.filterMap_eq_nil_iff.mpr fun x hx => ?_
  obtain ⟨c, r⟩ := x
  have hc := h _ hx
  cases c <;> first | rfl | exact hc.elim

end Exchange

open Exchange

/-! ## Preparation -/

namespace Resolution

/-- Resolution makes a lookup by ids, by groups, both at the same time, or none. -/
theorem resolve_cases (t : Targets) :
    resolve t = .done (settle (.ok []) (.ok [])) ∨
    (∃ groups, resolve t = .gather [.channelsInGroups groups] fun (rs : Call.Reply _ × Unit) =>
      .done (settle (.ok []) rs.1)) ∨
    (∃ ids, resolve t = .gather [.channelsWithIds ids] fun (rs : Call.Reply _ × Unit) =>
      .done (settle rs.1 (.ok []))) ∨
    ∃ ids groups, resolve t = .gather [.channelsWithIds ids, .channelsInGroups groups]
      fun (rs : Call.Reply _ × Call.Reply _ × Unit) => .done (settle rs.1 rs.2.1) := by
  unfold resolve
  cases t.channelIds with
  | nil =>
    cases t.groups with
    | nil => exact .inl rfl
    | cons g gs => exact .inr (.inl ⟨_, rfl⟩)
  | cons i is =>
    cases t.groups with
    | nil => exact .inr (.inr (.inl ⟨_, rfl⟩))
    | cons g gs => exact .inr (.inr (.inr ⟨_, _, rfl⟩))

theorem resolve_within (t : Targets) : (resolve t).Within Call.IsLookup := by
  rcases resolve_cases t with h | ⟨gs, h⟩ | ⟨is, h⟩ | ⟨is, gs, h⟩ <;> rw [h] <;> simp [Plan.Within, Call.IsLookup]

theorem settle_error {byId byGroup : Except String (List Channel)} {e : RelayError}
    (h : settle byId byGroup = .error e) : ∃ reason, e = .unresolved reason := by
  unfold settle at h
  split at h
  · cases h; exact ⟨_, rfl⟩
  · cases h; exact ⟨_, rfl⟩
  · cases h

theorem settle_ok {byId byGroup : Except String (List Channel)} {m : Keyed Channel}
    (h : settle byId byGroup = .ok m) : ∃ cs ds, byId = .ok cs ∧ byGroup = .ok ds ∧ m = merge cs ds := by
  unfold settle at h
  split at h
  · cases h
  · cases h
  · cases h
    exact ⟨_, _, rfl, rfl, rfl⟩

/-- Merging brings nothing new, and puts every channel under its own id. -/
theorem mem_entries_merge {byId byGroup : List Channel} {e : Int64 × Channel}
    (h : e ∈ (merge byId byGroup).entries) : e.2 ∈ byId ++ byGroup ∧ e.1 = e.2.id := by
  obtain ⟨c, hc, rfl⟩ := List.mem_map.mp (Keyed.mem_of_mem_ofList h)
  exact ⟨hc, rfl⟩

/-- A resolution that fails has looked something up. -/
theorem resolve_error (t : Targets) (answer : Plan.Responder σ) (s : σ) {e : RelayError}
    (h : ((resolve t).run answer s).1 = .error e) :
    (∃ reason, e = .unresolved reason) ∧ (resolve t).exchanges answer s ≠ [] := by
  rcases resolve_cases t with ht | ⟨gs, ht⟩ | ⟨is, ht⟩ | ⟨is, gs, ht⟩ <;> rw [ht] at h ⊢
  · cases h
  all_goals exact ⟨settle_error h, by simp [Plan.exchanges, Plan.exchangesOf]⟩

end Resolution

/-- The event of a request that breaks no rule is the one that it names. -/
theorem Request.event_of_check {r : Request} {event : Event} (h : r.check = .ok event) : r.event = some event := by
  unfold check at h
  repeat' split at h
  all_goals cases h
  assumption

theorem Request.validate_of_check_error {r : Request} {f : RequestFault} (h : r.check = .error f) :
    r.validate = .error (.invalid f.message) := by
  rw [Request.validate, h]
  rfl

theorem Request.validate_of_check {r : Request} {event : Event} (h : r.check = .ok event) : r.validate = .ok event := by
  rw [Request.validate, h]
  rfl

namespace Submission

/-- What a request asks for when its lookups are answered by a responder. -/
structure AsksFor (r : Request) (answer : Plan.Responder σ) (st : σ) (n : Notification) : Prop where
  uuid : n.uuid = r.uuid
  title : n.title = r.title
  event : r.event = some n.event
  message : n.message = n.event.sentence
  channels : ((Resolution.resolve (Targets.ofTexts r.targets)).run answer st).1 = .ok n.channels
  retries : n.retries = 0

/-- A preparation stops at a broken rule or a failed lookup, or brings what the request asks for. -/
theorem prepare_cases (r : Request) (answer : Plan.Responder σ) (st : σ) :
    (∃ f, r.check = .error f ∧ prepare r = .done (.error (.invalid f.message))) ∨
    (∃ reason, ((prepare r).run answer st).1 = .error (.unresolved reason) ∧ (prepare r).exchanges answer st ≠ []) ∨
    ∃ n, ((prepare r).run answer st).1 = .ok n ∧ AsksFor r answer st n := by
  unfold prepare
  cases hc : r.check with
  | error f =>
    rw [Request.validate_of_check_error hc]
    exact .inl ⟨f, rfl, rfl⟩
  | ok event =>
    rw [Request.validate_of_check hc]
    refine .inr ?_
    simp only [Plan.run_bind, Plan.exchanges_bind]
    cases hr : ((Resolution.resolve (Targets.ofTexts r.targets)).run answer st).1 with
    | error e =>
      obtain ⟨⟨reason, rfl⟩, hne⟩ := Resolution.resolve_error _ answer st hr
      exact .inl ⟨reason, rfl, by simp [hne]⟩
    | ok channels =>
      exact .inr ⟨r.toNotification event channels, rfl,
        ⟨rfl, rfl, Request.event_of_check hc, rfl, hr, rfl⟩⟩

theorem prepare_within (r : Request) : (prepare r).Within Call.IsLookup := by
  unfold prepare
  cases r.validate with
  | error e => exact trivial
  | ok event =>
    refine (Resolution.resolve_within _).bind fun a => ?_
    cases a <;> exact trivial

variable (sub : Submission) (r : Request) (answer : Plan.Responder σ) (st : σ)

/-- A submission whose preparation fails ends with it. -/
theorem create_of_prepare_error {e : RelayError} (h : ((prepare r).run answer st).1 = .error e) :
    ((sub.create r).run answer st).1 = .error e ∧
      (sub.create r).exchanges answer st = (prepare r).exchanges answer st := by
  unfold create
  rw [Plan.run_bind, Plan.exchanges_bind, h]
  exact ⟨rfl, List.append_nil _⟩

/-- A submission that has been prepared goes on with its hand-off and ends as that does. -/
theorem create_of_prepare_ok {n : Notification} (h : ((prepare r).run answer st).1 = .ok n) :
    ∃ st', ((sub.create r).run answer st).1 = ((sub.handoff n).run.run answer st').1.map (fun () => n) ∧
      (sub.create r).exchanges answer st =
        (prepare r).exchanges answer st ++ (sub.handoff n).run.exchanges answer st' := by
  refine ⟨((prepare r).run answer st).2, ?_⟩
  unfold create
  rw [Plan.run_bind, Plan.exchanges_bind, h]
  simp only [Plan.run_bind, Plan.exchanges_bind]
  cases ((sub.handoff n).run.run answer ((prepare r).run answer st).2).1 with
  | error e => exact ⟨rfl, by simp [Plan.exchanges]⟩
  | ok _ => exact ⟨rfl, by simp [Plan.exchanges]⟩

end Submission

/-! ## Endings -/

/-- The ways in which a submission ends. -/
inductive Ending
  /-- The request breaks a rule. -/
  | refused
  /-- The channels could not be looked up. -/
  | unresolved
  /-- The notification is in the queue. -/
  | queued
  /-- The hand-off failed and was written down. -/
  | writtenDown

/-- What a way to end means for the result of a submission and for the exchanges that led to it. -/
def Ending.Fits (sub : Submission) (r : Request) (answer : Plan.Responder σ) (st : σ)
    (result : Except RelayError Notification) (es : List Exchange) : Ending → Prop
  | refused => ∃ f, r.check = .error f ∧ result = .error (.invalid f.message) ∧ es = []
  | unresolved => ∃ reason, result = .error (.unresolved reason) ∧ es ≠ [] ∧ ∀ x ∈ es, x.call.IsLookup
  | queued => ∃ n lookups marker,
    result = .ok n ∧ Submission.AsksFor r answer st n ∧
    es = lookups ++ [⟨.readMarker (Guard.key r.uuid), .ok marker⟩,
      ⟨.keepMarker (Guard.key r.uuid) (Wire.encode n) sub.lifetime, .ok ()⟩,
      ⟨.enqueue sub.topic (Wire.encode n), .ok ()⟩] ∧
    (∀ x ∈ lookups, x.call.IsLookup) ∧ Guard.isTaken marker = false ∧
    appended es = [(sub.topic, Wire.encode n)] ∧ drafts es = []
  | writtenDown => ∃ n e lookups steps reply,
    result = .error e ∧ Submission.AsksFor r answer st n ∧
    es = lookups ++ steps ++ [⟨.recordFailure ⟨r.uuid, Wire.encode n, e.message⟩, reply⟩] ∧
    (∀ x ∈ lookups, x.call.IsLookup) ∧ (sub.handoff n).Fails steps e ∧
    appended es = [] ∧ drafts es = [⟨r.uuid, Wire.encode n, e.message⟩]

namespace Handoff

/-- A hand-off fails because its name is taken, the guard is down, or the queue is. -/
theorem Fails.error_eq {h : Handoff} {steps : List Exchange} {e : RelayError} (hf : h.Fails steps e) :
    e = .alreadySubmitted h.uuid ∨ (∃ x, e = .guardDown x) ∨ ∃ x, e = .queueDown x := by
  cases hf with
  | taken m hm => exact .inl rfl
  | unread x => exact .inr (.inl ⟨x, rfl⟩)
  | unmarked m hm x => exact .inr (.inl ⟨x, rfl⟩)
  | unsent m hm x => exact .inr (.inr ⟨x, rfl⟩)

/-- A hand-off that fails has appended nothing and written nothing down until then. -/
theorem Fails.no_effects {h : Handoff} {steps : List Exchange} {e : RelayError} (hf : h.Fails steps e) :
    appended steps = [] ∧ drafts steps = [] := by
  cases hf <;> exact ⟨rfl, rfl⟩

end Handoff

/-- The way to end that belongs to a result. -/
def Ending.ofResult : Except RelayError Notification → Ending
  | .ok _ => queued
  | .error (.invalid _) => refused
  | .error (.unresolved _) => unresolved
  | .error _ => writtenDown

/-- The result of a submission tells how it ended. -/
theorem Ending.Fits.eq_ofResult {sub : Submission} {r : Request} {answer : Plan.Responder σ} {st : σ}
    {result : Except RelayError Notification} {es : List Exchange} {k : Ending}
    (hk : k.Fits sub r answer st result es) : k = .ofResult result := by
  cases k with
  | refused =>
    obtain ⟨f, -, rfl, -⟩ := hk
    rfl
  | unresolved =>
    obtain ⟨reason, rfl, -⟩ := hk
    rfl
  | queued =>
    obtain ⟨n, lookups, marker, rfl, -⟩ := hk
    rfl
  | writtenDown =>
    obtain ⟨n, e, lookups, steps, reply, rfl, -, -, -, hf, -⟩ := hk
    rcases hf.error_eq with rfl | ⟨x, rfl⟩ | ⟨x, rfl⟩ <;> rfl

/-- The hand-off of a prepared request ends in the queue or in a failure record. -/
theorem Submission.fits_of_prepare_ok (sub : Submission) {r : Request} {answer : Plan.Responder σ} {st : σ}
    {n : Notification} (h : ((prepare r).run answer st).1 = .ok n) (hn : AsksFor r answer st n) :
    ∃ k : Ending, k.Fits sub r answer st ((sub.create r).run answer st).1 ((sub.create r).exchanges answer st) := by
  obtain ⟨st', hresult, hes⟩ := sub.create_of_prepare_ok r answer st h
  rw [hresult, hes]
  have hl : ∀ x ∈ (prepare r).exchanges answer st, x.call.IsLookup := (prepare_within r).exchanges answer st
  have hu : (sub.handoff n).uuid = r.uuid := hn.uuid
  have hp := (sub.handoff n).progress_run answer st'
  revert hp
  generalize ((sub.handoff n).run.run answer st').1 = outcome
  generalize (sub.handoff n).run.exchanges answer st' = es
  generalize (prepare r).exchanges answer st = lookups at hl
  intro hp
  cases outcome with
  | ok _ =>
    obtain ⟨marker, hm, rfl⟩ := hp.of_ok
    refine ⟨.queued, n, lookups, marker, rfl, hn, ?_, hl, hm, ?_, ?_⟩
    · rw [← hu]
      rfl
    · simp only [appended, List.filterMap_append]
      rw [show lookups.filterMap appended? = [] from appended_of_lookups hl]
      rfl
    · simp only [drafts, List.filterMap_append]
      rw [show lookups.filterMap draft? = [] from drafts_of_lookups hl]
      rfl
  | error e =>
    obtain ⟨steps, reply, hf, rfl⟩ := hp.of_error
    obtain ⟨ha, hd⟩ := hf.no_effects
    refine ⟨.writtenDown, n, e, lookups, steps, reply, rfl, hn, ?_, hl, hf, ?_, ?_⟩
    · rw [← hu, List.append_assoc]
      rfl
    · simp only [appended, List.filterMap_append] at ha ⊢
      rw [show lookups.filterMap appended? = [] from appended_of_lookups hl, ha]
      rfl
    · simp only [drafts, List.filterMap_append] at hd ⊢
      rw [show lookups.filterMap draft? = [] from drafts_of_lookups hl, hd, ← hu]
      rfl

/-- **Every submission ends in exactly one of the four ways**, whatever its collaborators answer. -/
theorem create_fits_unique (sub : Submission) (r : Request) (answer : Plan.Responder σ) (st : σ) :
    ∃! k : Ending,
      k.Fits sub r answer st ((sub.create r).run answer st).1 ((sub.create r).exchanges answer st) := by
  have hexists : ∃ k : Ending,
      k.Fits sub r answer st ((sub.create r).run answer st).1 ((sub.create r).exchanges answer st) := by
    rcases Submission.prepare_cases r answer st with ⟨f, hf, hp⟩ | ⟨reason, hr, hne⟩ | ⟨n, hr, hn⟩
    · have hr : ((Submission.prepare r).run answer st).1 = .error (.invalid f.message) := by rw [hp]; rfl
      obtain ⟨h1, h2⟩ := sub.create_of_prepare_error r answer st hr
      exact ⟨.refused, f, hf, h1, by rw [h2, hp]; rfl⟩
    · obtain ⟨h1, h2⟩ := sub.create_of_prepare_error r answer st hr
      exact ⟨.unresolved, reason, h1, by rwa [h2], by rw [h2]; exact (Submission.prepare_within r).exchanges answer st⟩
    · exact sub.fits_of_prepare_ok hr hn
  obtain ⟨k, hk⟩ := hexists
  exact ⟨k, hk, fun l hl => hl.eq_ofResult.trans hk.eq_ofResult.symm⟩

end Courier
