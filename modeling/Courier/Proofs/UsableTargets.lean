import Courier.Proofs.Recipients

/-!
# Targets that name something

A target names a channel or a group unless it is blank (`Target.ofText?_eq_none_iff`), so the ids and the groups that a
request names are as many as its targets that are not blank (`Targets.length_ofTexts`). The check of a request only
rules out targets that are empty (`Request.check_eq_ok_iff`). So a request whose targets are all blank passes it and
goes to the queue with nobody to deliver to (`Submission.prepare_of_blank`); `Request.usable_targets` tells how many
targets an accepted request can count on.
-/

namespace Courier

open Exchange

namespace Target

/-- A text names nothing exactly when it is blank. -/
theorem ofText?_eq_none_iff {raw : String} : ofText? raw = none ↔ Text.isBlank raw = true := by
  rw [Text.isBlank_iff_trim_eq]
  simp only [ofText?]
  split
  · next h => exact iff_of_true rfl h
  · next h =>
    refine iff_of_false ?_ h
    split <;> exact Option.some_ne_none _

/-- Every target has one kind. -/
theorem length_kinds (ts : List Target) :
    (ts.filterMap digits?).length + (ts.filterMap name?).length = ts.length := by
  induction ts with
  | nil => rfl
  | cons t ts ih =>
    cases t with
    | channel d =>
      have hname : (channel d).name? = none := rfl
      have hdigits : (channel d).digits? = some d := rfl
      rw [List.filterMap_cons_some hdigits, List.filterMap_cons_none hname, List.length_cons, List.length_cons,
        Nat.add_right_comm, ih]
    | group g =>
      have hdigits : (group g).digits? = none := rfl
      have hname : (group g).name? = some g := rfl
      rw [List.filterMap_cons_none hdigits, List.filterMap_cons_some hname, List.length_cons, List.length_cons,
        ← Nat.add_assoc, ih]

end Target

namespace Targets

/-- A text that is not blank is one target, and a blank one is none. -/
theorem length_filterMap_ofText? (raws : List String) :
    (raws.filterMap Target.ofText?).length + raws.countP Text.isBlank = raws.length := by
  induction raws with
  | nil => rfl
  | cons raw raws ih =>
    cases ht : Target.ofText? raw with
    | none =>
      have hblank := Target.ofText?_eq_none_iff.mp ht
      rw [List.filterMap_cons_none ht, List.countP_cons_of_pos hblank, List.length_cons, ← Nat.add_assoc, ih]
    | some t =>
      have hblank : ¬ Text.isBlank raw = true := by
        rw [← Target.ofText?_eq_none_iff, ht]
        exact Option.some_ne_none t
      rw [List.filterMap_cons_some ht, List.countP_cons_of_neg hblank, List.length_cons, List.length_cons,
        Nat.add_right_comm, ih]

/-- The ids, the groups and the blank texts are as many as the texts. -/
theorem length_ofTexts (raws : List String) :
    (ofTexts raws).ids.length + (ofTexts raws).groups.length + raws.countP Text.isBlank = raws.length := by
  have hkinds : (ofTexts raws).ids.length + (ofTexts raws).groups.length = (raws.filterMap Target.ofText?).length :=
    Target.length_kinds _
  rw [hkinds, length_filterMap_ofText?]

/-- Blank texts name nothing. -/
theorem ofTexts_of_blank {raws : List String} (h : ∀ raw ∈ raws, Text.isBlank raw = true) :
    ofTexts raws = ⟨[], []⟩ := by
  have hnone : raws.filterMap Target.ofText? = [] :=
    List.filterMap_eq_nil_iff.mpr fun raw hraw => Target.ofText?_eq_none_iff.mpr (h raw hraw)
  simp only [ofTexts, hnone, List.filterMap_nil]

end Targets

/-! ## Requests that break no rule -/

namespace Request

variable {r : Request} {event : Event}

theorem check_eq_ok_iff : r.check = .ok event ↔
    Text.isBlank r.uuid = false ∧ Text.isBlank r.title = false ∧ (1 ≤ r.targets.length ∧ r.targets.length ≤ 20) ∧
      "" ∉ r.targets ∧ r.event = some event ∧ event.fault? = none := by
  have hcount : ¬ (r.targets.length < RequestFault.leastTargets ∨ RequestFault.mostTargets < r.targets.length) ↔
      1 ≤ r.targets.length ∧ r.targets.length ≤ 20 := by
    rw [not_or, Nat.not_lt, Nat.not_lt]
    rfl
  have hempty : ¬ (r.targets.any fun t => t == "") = true ↔ "" ∉ r.targets := by
    simp
  unfold check
  constructor
  · intro h
    -- one case for each rule, in the order in which the rules are checked
    split at h
    · cases h
    next huuid =>
    split at h
    · cases h
    next htitle =>
    split at h
    · cases h
    next hbounds =>
    split at h
    · cases h
    next hnone =>
    split at h
    · cases h
    next e hevent =>
    split at h
    · cases h
    next hfault =>
    cases h
    exact ⟨Bool.eq_false_iff.mpr huuid, Bool.eq_false_iff.mpr htitle, hcount.mp hbounds, hempty.mp hnone, hevent,
      hfault⟩
  · rintro ⟨huuid, htitle, hbounds, hnone, hevent, hfault⟩
    rw [if_neg (Bool.eq_false_iff.mp huuid), if_neg (Bool.eq_false_iff.mp htitle), if_neg (hcount.mpr hbounds),
      if_neg (hempty.mpr hnone), hevent]
    simp only [hfault]

theorem check_of_validate (h : r.validate = .ok event) : r.check = .ok event := by
  cases hc : r.check with
  | error f =>
    rw [validate_of_check_error hc] at h
    cases h
  | ok e =>
    rw [validate_of_check hc] at h
    cases h
    rfl

end Request

/-! ## Nobody to deliver to -/

/-- Whatever the dispatch of a payload goes through, it delivers nothing. -/
def Dispatch.ReachesNobody (payload : Octets) : Prop :=
  ∀ es a, (dispatch payload).Unfolds es a → ∀ x ∈ es, ¬ x.call.isDelivery = true

namespace Submission

variable {r : Request} {event : Event}

/-- A request with blank targets only is prepared without a lookup, for no channels. -/
theorem prepare_of_blank (h : r.check = .ok event) (hblank : ∀ raw ∈ r.targets, Text.isBlank raw = true) :
    prepare r = .done (.ok (r.toNotification event (Resolution.merge [] []))) := by
  rw [prepare, Request.validate_of_check h, Targets.ofTexts_of_blank hblank]
  rfl

/-- Such a request can be submitted: its name is free, and nothing fails. -/
theorem exists_create_of_blank (sub : Submission) (h : r.check = .ok event)
    (hblank : ∀ raw ∈ r.targets, Text.isBlank raw = true) : ∃ es n, (sub.create r).Unfolds es (.ok n) := by
  have hrun := Plan.unfolds_run (sub.create r) Memory.Stores.answer (.ofChannels [])
  have hok : ((sub.create r).run Memory.Stores.answer (.ofChannels [])).1 =
      .ok (r.toNotification event (Resolution.merge [] [])) := by
    rw [create, prepare_of_blank h hblank]
    rfl
  rw [hok] at hrun
  exact ⟨_, _, hrun⟩

/-- What is queued of such a request reaches nobody. -/
theorem reachesNobody_of_blank {sub : Submission} (h : r.check = .ok event)
    (hblank : ∀ raw ∈ r.targets, Text.isBlank raw = true) {es : List Exchange} {n : Notification}
    (hcreate : (sub.create r).Unfolds es (.ok n)) : Dispatch.ReachesNobody (Wire.encode n) := by
  obtain ⟨ys, -, -, hprepare, -⟩ := create_unfolds hcreate
  rw [prepare_of_blank h hblank] at hprepare
  obtain ⟨-, hn⟩ := Plan.unfolds_done_iff.mp hprepare
  cases hn
  intro xs a hdispatch x hx hdelivery
  have hnonneg : (0 : Int64) ≤ 0 := by decide
  rw [Dispatch.dispatch_of_decode (decode_encode_notification _) hnonneg] at hdispatch
  have hnone : (xs.map Exchange.call).filter Call.isDelivery = [] := (Dispatch.attempts_perm hdispatch).eq_nil
  exact List.filter_eq_nil_iff.mp hnone x.call (List.mem_map_of_mem hx) hdelivery

end Submission

/-- **The targets that an accepted request can count on.** A request that breaks no rule has between one and twenty
targets. The ids and the groups that it names are as many as its targets that are not blank: as many as all its targets
only if none is blank, and none if all are. A request whose targets are all blank can be submitted; it then goes into
the queue, and whatever its dispatch goes through, nothing is delivered. -/
theorem Request.usable_targets {r : Request} {event : Event} (h : r.validate = .ok event) :
    let named := Targets.ofTexts r.targets
    (1 ≤ r.targets.length ∧ r.targets.length ≤ 20) ∧
    named.ids.length + named.groups.length + r.targets.countP Text.isBlank = r.targets.length ∧
    (named.ids.length + named.groups.length = r.targets.length ↔ ∀ raw ∈ r.targets, ¬ Text.isBlank raw = true) ∧
    (named.ids.length + named.groups.length = 0 ↔ ∀ raw ∈ r.targets, Text.isBlank raw = true) ∧
    ((∀ raw ∈ r.targets, Text.isBlank raw = true) → ∀ sub : Submission,
      (∃ es n, (sub.create r).Unfolds es (.ok n)) ∧
      ∀ es n, (sub.create r).Unfolds es (.ok n) →
        appended es = [(sub.topic, Wire.encode n)] ∧ Dispatch.ReachesNobody (Wire.encode n)) := by
  intro named
  have hcheck := check_of_validate h
  obtain ⟨-, -, hbounds, -⟩ := check_eq_ok_iff.mp hcheck
  have hlength : named.ids.length + named.groups.length + r.targets.countP Text.isBlank = r.targets.length :=
    Targets.length_ofTexts r.targets
  refine ⟨hbounds, hlength, ?_, ?_, fun hblank sub => ⟨sub.exists_create_of_blank hcheck hblank, ?_⟩⟩
  · rw [← List.countP_eq_zero]
    omega
  · rw [← List.countP_eq_length]
    omega
  · intro es n hcreate
    exact ⟨Submission.appended_of_create hcreate, Submission.reachesNobody_of_blank hcheck hblank hcreate⟩

/-- A payment that was approved. -/
def payment : Event := ⟨"approved", "BRL", "alice", "bob", "pix", 1700000000, 12345⟩

/-- A request to tell some targets about the payment. -/
def Request.telling (targets : List String) : Request := ⟨"n-1", "Payment", "ignored", targets, some payment⟩

theorem Request.usable_targets_spaced :
    (telling [" ", "7"]).validate = .ok payment ∧
    (Targets.ofTexts [" ", "7"]).ids.length + (Targets.ofTexts [" ", "7"]).groups.length + 1 = 2 ∧
    ∃ es n, ((⟨"n", 1000⟩ : Submission).create (telling [" "])).Unfolds es (.ok n) ∧
      Dispatch.ReachesNobody (Wire.encode n) := by
  have hspaced : (telling [" ", "7"]).validate = .ok payment := rfl
  have hblank : (telling [" "]).validate = .ok payment := rfl
  obtain ⟨-, hlength, -⟩ := usable_targets hspaced
  obtain ⟨-, -, -, -, hnobody⟩ := usable_targets hblank
  obtain ⟨⟨es, n, hcreate⟩, hdelivers⟩ := hnobody (by decide) ⟨"n", 1000⟩
  exact ⟨hspaced, hlength, es, n, hcreate, (hdelivers es n hcreate).2⟩

/-- An accepted request may name less than it has targets, and nothing at all. -/
theorem Request.accepted_with_nobody :
    (¬ ∀ r event, Request.validate r = .ok event →
      (Targets.ofTexts r.targets).ids.length + (Targets.ofTexts r.targets).groups.length = r.targets.length) ∧
    ¬ ∀ r event, Request.validate r = .ok event →
      1 ≤ (Targets.ofTexts r.targets).ids.length + (Targets.ofTexts r.targets).groups.length := by
  have hblank : (telling [" "]).validate = .ok payment := rfl
  have hnothing : (Targets.ofTexts (telling [" "]).targets).ids.length +
      (Targets.ofTexts (telling [" "]).targets).groups.length = 0 := rfl
  constructor
  · intro hall
    exact absurd ((hall _ _ hblank).symm.trans hnothing) Nat.one_ne_zero
  · intro hall
    exact absurd (hall _ _ hblank) (by rw [hnothing]; exact Nat.not_succ_le_zero 0)

end Courier
