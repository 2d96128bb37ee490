import Courier.Proofs.SubmissionEndings

/-!
# The paths of a submission

`Submission.Path` lists what a submission can go through, whatever is replied to its calls and in whatever order its
lookups are answered, together with the result to which each path leads (`create_path`). What a path tells about its
exchanges is read off here: for which name its calls are (`Path.concerns`), which of them failed
(`Path.unavailable_iff`), what it appended to queues (`Path.appended_of_error`), and when it was turned away
(`Path.asked`, `Path.turned`).
-/

namespace Courier

open Exchange

/-- A call that a submission cannot do without: it ends with an error when the call fails. -/
def Call.IsNeeded : Call → Prop
  | .channelsWithIds _ | .channelsInGroups _ | .readMarker _ | .keepMarker _ _ _ | .enqueue _ _ => True
  | _ => False

/-- A call that a submission of a name can make. -/
def Call.Concerns (uuid : String) : Call → Prop
  | .channelsWithIds _ | .channelsInGroups _ | .enqueue _ _ | .recordFailure _ => True
  | .readMarker key | .keepMarker key _ _ => key = Guard.key uuid
  | _ => False

theorem Call.IsLookup.isNeeded {c : Call} (h : c.IsLookup) : c.IsNeeded := by
  cases c <;> trivial

theorem Call.IsLookup.not_writes {c : Call} (h : c.IsLookup) : ¬ c.Writes := by
  cases c <;> first | exact id | exact h.elim

theorem Call.IsLookup.concerns {c : Call} (h : c.IsLookup) (uuid : String) : c.Concerns uuid := by
  cases c <;> trivial

/-! ## Resolution -/

/-- A resolution succeeds when its lookups do, and is given up when one of them fails. -/
theorem Resolution.resolve_unfolds {t : Targets} {es : List Exchange} {a : Except RelayError (Keyed Channel)}
    (h : (resolve t).Unfolds es a) :
    (∃ m, a = .ok m) ∧ (∀ x ∈ es, x.isOk = true) ∨
      (∃ reason, a = .error (.unresolved reason)) ∧ ∃ x ∈ es, x.isOk = false := by
  rcases resolve_cases t with ht | ⟨gs, ht⟩ | ⟨is, ht⟩ | ⟨is, gs, ht⟩ <;> rw [ht] at h
  · obtain ⟨rfl, rfl⟩ := Plan.unfolds_done_iff.mp h
    exact .inl ⟨⟨_, rfl⟩, fun x hx => by cases hx⟩
  · obtain ⟨⟨r, ⟨⟩⟩, hperm, rfl⟩ := Plan.unfolds_gather_done_iff.mp h
    obtain rfl := List.perm_singleton.mp hperm
    cases r with
    | error e => exact .inr ⟨⟨_, rfl⟩, _, List.mem_cons_self, rfl⟩
    | ok cs => exact .inl ⟨⟨_, rfl⟩, by simp [Exchange.isOk]⟩
  · obtain ⟨⟨r, ⟨⟩⟩, hperm, rfl⟩ := Plan.unfolds_gather_done_iff.mp h
    obtain rfl := List.perm_singleton.mp hperm
    cases r with
    | error e => exact .inr ⟨⟨_, rfl⟩, _, List.mem_cons_self, rfl⟩
    | ok cs => exact .inl ⟨⟨_, rfl⟩, by simp [Exchange.isOk]⟩
  · obtain ⟨⟨r, r', ⟨⟩⟩, hperm, rfl⟩ := Plan.unfolds_gather_done_iff.mp h
    have hmem : ∀ x, x ∈ es ↔ x = ⟨.channelsWithIds is, r⟩ ∨ x = ⟨.channelsInGroups gs, r'⟩ := by
      intro x
      rw [hperm.mem_iff]
      simp [Call.exchanges]
    cases r with
    | error e => exact .inr ⟨⟨_, rfl⟩, _, (hmem _).mpr (.inl rfl), rfl⟩
    | ok cs =>
      cases r' with
      | error e => exact .inr ⟨⟨_, rfl⟩, _, (hmem _).mpr (.inr rfl), rfl⟩
      | ok ds =>
        refine .inl ⟨⟨_, rfl⟩, fun x hx => ?_⟩
        rcases (hmem x).mp hx with rfl | rfl <;> rfl

/-- The first step of a hand-off that fails asks the guard, and the answer decides whether it is turned away. -/
theorem Handoff.Fails.exists_asking {h : Handoff} {steps : List Exchange} {e : RelayError} (hf : h.Fails steps e) :
    ∃ reply rest, steps = h.lookedUp reply :: rest ∧ (∀ x ∈ rest, x.call ≠ .readMarker (Guard.key h.uuid)) ∧
      ∀ m, reply = .ok m → (Guard.isTaken m = true ↔ e = .alreadySubmitted h.uuid) := by
  cases hf with
  | unread x => exact ⟨_, _, rfl, by simp, by simp⟩
  | taken m hm => exact ⟨_, _, rfl, by simp, fun m' hm' => by cases hm'; simp [hm]⟩
  | unmarked m hm x => exact ⟨_, _, rfl, by simp [marked], fun m' hm' => by cases hm'; simp [hm]⟩
  | unsent m hm x => exact ⟨_, _, rfl, by simp [marked, sent], fun m' hm' => by cases hm'; simp [hm]⟩

/-! ## Paths -/

namespace Submission

/-- The hand-off of what a request asks for. -/
def handoffOf (sub : Submission) (r : Request) (event : Event) (channels : Keyed Channel) : Handoff :=
  sub.handoff (r.toNotification event channels)

/-- What a submission can go through, and how it ends. -/
inductive Path (sub : Submission) (r : Request) : List Exchange → Except RelayError Notification → Prop
  | refused {f : RequestFault} (hcheck : r.check = .error f) : Path sub r [] (.error (.invalid f.message))
  | unresolved {event : Event} (hcheck : r.check = .ok event) {lookups : List Exchange}
    (hlookups : ∀ x ∈ lookups, x.call.IsLookup) (hfailed : ∃ x ∈ lookups, x.isOk = false) (reason : String) :
    Path sub r lookups (.error (.unresolved reason))
  | failed {event : Event} (hcheck : r.check = .ok event) {lookups : List Exchange}
    (hlookups : ∀ x ∈ lookups, x.call.IsLookup) (hok : ∀ x ∈ lookups, x.isOk = true) {channels : Keyed Channel}
    {steps : List Exchange} {e : RelayError} (hsteps : (sub.handoffOf r event channels).Fails steps e)
    (reply : Call.Reply (.recordFailure ((sub.handoffOf r event channels).draft e))) :
    Path sub r (lookups ++ (steps ++ [(sub.handoffOf r event channels).noted e reply])) (.error e)
  | queued {event : Event} (hcheck : r.check = .ok event) {lookups : List Exchange}
    (hlookups : ∀ x ∈ lookups, x.call.IsLookup) (hok : ∀ x ∈ lookups, x.isOk = true) {channels : Keyed Channel}
    {m : Option Octets} (hm : Guard.isTaken m = false) :
    Path sub r (lookups ++ [(sub.handoffOf r event channels).lookedUp (.ok m),
      (sub.handoffOf r event channels).marked (.ok ()), (sub.handoffOf r event channels).sent (.ok ())])
      (.ok (r.toNotification event channels))

variable {sub : Submission} {r : Request} {es : List Exchange} {a : Except RelayError Notification}

/-- Every submission takes one of the paths. -/
theorem create_path (h : (sub.create r).Unfolds es a) : sub.Path r es a := by
  unfold create prepare at h
  cases hcheck : r.check with
  | error f =>
    rw [Request.validate_of_check_error hcheck] at h
    obtain ⟨rfl, rfl⟩ := Plan.unfolds_done_iff.mp h
    exact .refused hcheck
  | ok event =>
    rw [Request.validate_of_check hcheck] at h
    dsimp only at h
    rw [Plan.bind_bind] at h
    obtain ⟨b, lookups, ys, rfl, hresolve, hys⟩ := Plan.unfolds_bind_iff.mp h
    have hlookups := (Resolution.resolve_within _).unfolds hresolve
    rcases Resolution.resolve_unfolds hresolve with ⟨⟨channels, rfl⟩, hok⟩ | ⟨⟨reason, rfl⟩, hfailed⟩
    · obtain ⟨c, ys, zs, rfl, hrun, hzs⟩ := (Plan.unfolds_bind_iff (p := (sub.handoffOf r event channels).run)).mp hys
      have hprogress := Handoff.Progress.begun.unfolds hrun
      rw [List.nil_append] at hprogress
      rcases c with e | ⟨⟩
      · obtain ⟨rfl, rfl⟩ := Plan.unfolds_done_iff.mp hzs
        obtain ⟨steps, reply, hsteps, rfl⟩ := hprogress.of_error
        rw [List.append_nil]
        exact .failed hcheck hlookups hok hsteps reply
      · obtain ⟨rfl, rfl⟩ := Plan.unfolds_done_iff.mp hzs
        obtain ⟨m, hm, rfl⟩ := hprogress.of_ok
        rw [List.append_nil]
        exact .queued hcheck hlookups hok hm
    · obtain ⟨rfl, rfl⟩ := Plan.unfolds_done_iff.mp hys
      rw [List.append_nil]
      exact .unresolved hcheck hlookups hfailed reason

namespace Path

/-- A submission that ends with an error has appended nothing to a queue. -/
theorem appended_of_error {e : RelayError} (h : sub.Path r es (.error e)) : appended es = [] := by
  cases h with
  | refused hcheck => rfl
  | unresolved hcheck hlookups hfailed reason => exact appended_of_lookups hlookups
  | @failed event hcheck lookups hlookups hok channels steps e hsteps reply =>
    rw [appended, List.filterMap_append, List.filterMap_append,
      show lookups.filterMap appended? = [] from appended_of_lookups hlookups,
      show steps.filterMap appended? = [] from hsteps.no_effects.1]
    rfl

/-- Every call of a submission is for the name of its request. -/
theorem concerns (h : sub.Path r es a) : ∀ x ∈ es, x.call.Concerns r.uuid := by
  have huuid : ∀ event channels, (sub.handoffOf r event channels).uuid = r.uuid := fun _ _ => rfl
  cases h with
  | refused hcheck => simp
  | unresolved hcheck hlookups hfailed reason => exact fun x hx => (hlookups x hx).concerns _
  | failed hcheck hlookups hok hsteps reply =>
    refine List.forall_mem_append.mpr ⟨fun x hx => (hlookups x hx).concerns _, ?_⟩
    cases hsteps <;>
      simp [Handoff.lookedUp, Handoff.marked, Handoff.sent, Handoff.noted, Call.Concerns, huuid]
  | queued hcheck hlookups hok hm =>
    refine List.forall_mem_append.mpr ⟨fun x hx => (hlookups x hx).concerns _, ?_⟩
    simp [Handoff.lookedUp, Handoff.marked, Handoff.sent, Call.Concerns, huuid]

/-- A submission ends for want of the channels, the guard or the queue just when a call to one of them has failed. -/
theorem unavailable_iff (h : sub.Path r es a) :
    (∃ e, a = .error e ∧ e.toService.status = 503) ↔ ∃ x ∈ es, x.call.IsNeeded ∧ x.isOk = false := by
  cases h with
  | refused hcheck => simp [RelayError.toService, ServiceError.status]
  | unresolved hcheck hlookups hfailed reason =>
    obtain ⟨x, hx, hfailed⟩ := hfailed
    exact ⟨fun _ => ⟨x, hx, (hlookups x hx).isNeeded, hfailed⟩, fun _ => ⟨_, rfl, rfl⟩⟩
  | @failed event hcheck lookups hlookups hok channels steps e hsteps reply =>
    cases hsteps with
    | unread x =>
      exact ⟨fun _ => ⟨_, List.mem_append_right _ List.mem_cons_self, trivial, rfl⟩, fun _ => ⟨_, rfl, rfl⟩⟩
    | taken m hm =>
      constructor
      · rintro ⟨e, he, hstatus⟩
        cases he
        cases hstatus
      · rintro ⟨x, hx, hneeded, hfailed⟩
        rcases List.mem_append.mp hx with hx | hx
        · cases (hok x hx).symm.trans hfailed
        · rcases List.mem_cons.mp hx with rfl | hx
          · cases hfailed
          · rw [List.mem_singleton.mp hx] at hneeded
            exact hneeded.elim
    | unmarked m hm x =>
      exact ⟨fun _ => ⟨_, List.mem_append_right _ (List.mem_cons_of_mem _ List.mem_cons_self), trivial, rfl⟩,
        fun _ => ⟨_, rfl, rfl⟩⟩
    | unsent m hm x =>
      exact ⟨fun _ => ⟨_, List.mem_append_right _ (List.mem_cons_of_mem _ (List.mem_cons_of_mem _ List.mem_cons_self)),
        trivial, rfl⟩, fun _ => ⟨_, rfl, rfl⟩⟩
  | queued hcheck hlookups hok hm =>
    constructor
    · rintro ⟨e, he, -⟩
      cases he
    · rintro ⟨x, hx, -, hfailed⟩
      rcases List.mem_append.mp hx with hx | hx
      · cases (hok x hx).symm.trans hfailed
      · simp only [List.mem_cons, List.not_mem_nil, or_false] at hx
        rcases hx with rfl | rfl | rfl <;> cases hfailed

/-- What the guard knows of the name decides whether a submission is turned away, and it is asked right after the
lookups. -/
theorem asked {m : Option Octets} (h : sub.Path r es a) (hm : ⟨.readMarker (Guard.key r.uuid), .ok m⟩ ∈ es) :
    (∃ event, r.check = .ok event) ∧ (Guard.isTaken m = true ↔ a = .error (.alreadySubmitted r.uuid)) ∧
      ∃ lookups rest, es = lookups ++ ⟨.readMarker (Guard.key r.uuid), .ok m⟩ :: rest ∧
        ∀ x ∈ lookups, x.call.IsLookup := by
  have hnot : ∀ {lookups : List Exchange} {rest}, (∀ x ∈ lookups, x.call.IsLookup) →
      ⟨.readMarker (Guard.key r.uuid), .ok m⟩ ∈ lookups ++ rest →
      (⟨.readMarker (Guard.key r.uuid), .ok m⟩ : Exchange) ∈ rest := by
    intro lookups rest hlookups hmem
    rcases List.mem_append.mp hmem with hmem | hmem
    · exact (hlookups _ hmem).elim
    · exact hmem
  cases h with
  | refused hcheck => cases hm
  | unresolved hcheck hlookups hfailed reason => exact (hlookups _ hm).elim
  | @failed event hcheck lookups hlookups hok channels steps e hsteps reply =>
    obtain ⟨asking, rest, rfl, hrest, hdecides⟩ := hsteps.exists_asking
    obtain rfl := Handoff.lookedUp_of_mem (hnot hlookups hm)
      (List.forall_mem_append.mpr ⟨hrest, by simp [Handoff.noted]⟩)
    refine ⟨⟨event, hcheck⟩, ?_, lookups, _, rfl, hlookups⟩
    rw [hdecides m rfl, Except.error.injEq]
    rfl
  | @queued event hcheck lookups hlookups hok channels m' hm' =>
    obtain rfl := Except.ok.inj (Handoff.lookedUp_of_mem (hnot hlookups hm) (by simp [Handoff.marked, Handoff.sent]))
    exact ⟨⟨event, hcheck⟩, by simp [hm'], lookups, _, rfl, hlookups⟩

/-- A submission that is turned away has learnt a marker from the guard and has written nothing to it or to a queue. -/
theorem turned {uuid : String} (h : sub.Path r es (.error (.alreadySubmitted uuid))) :
    uuid = r.uuid ∧ (∃ m, ⟨.readMarker (Guard.key r.uuid), .ok m⟩ ∈ es) ∧ ∀ x ∈ es, ¬ x.call.Writes := by
  cases h with
  | @failed event hcheck lookups hlookups hok channels steps e hsteps reply =>
    cases hsteps with
    | taken m hm =>
      refine ⟨rfl, ⟨m, List.mem_append_right _ List.mem_cons_self⟩, fun x hx => ?_⟩
      rcases List.mem_append.mp hx with hx | hx
      · exact (hlookups x hx).not_writes
      · simp only [List.cons_append, List.nil_append, List.mem_cons, List.not_mem_nil, or_false] at hx
        rcases hx with rfl | rfl <;> exact id

end Path

end Submission

end Courier
