import Courier.Memory.Stores
import Courier.Proofs.Decimals
import Courier.Proofs.Deliveries
import Courier.Proofs.Lookups
import Courier.Proofs.SubmissionEndings
import Mathlib.Data.List.Nodup

/-!
# Recipients

A request names channels by texts. When it has been submitted, the dispatch of what was queued reaches each channel that
some text names (`Channel.NamedBy`), once, and no other channel. The names become ids and groups
(`Targets.exists_namedBy_iff`), the lookups bring the rows that have them, and merging the lookups leaves each row once
(`Resolution.values_merge_perm`). What then goes through the queue is what the dispatch delivers
(`Submission.reaches_the_named`).
-/

namespace Courier

open Exchange

/-! ## Names of channels -/

/-- A text names a channel: trimmed, it is the number of the channel in ASCII digits, or it is not of digits only and is
the group of the channel. -/
def Channel.NamedBy (c : Channel) (raw : String) : Prop :=
  Text.trim raw ≠ "" ∧
    (((Text.trim raw).toList.all Decimal.isDigit = true ∧
        (Decimal.value (Text.trim raw).toList : Int) = c.id.toInt) ∨
      ((Text.trim raw).toList.all Decimal.isDigit = false ∧ Text.trim raw = c.group))

instance (c : Channel) (raw : String) : Decidable (c.NamedBy raw) := inferInstanceAs (Decidable (_ ∧ _))

namespace Target

theorem ofText?_eq_channel_iff {raw d : String} :
    ofText? raw = some (channel d) ↔ Text.trim raw ≠ "" ∧ isNumeric (Text.trim raw) = true ∧ Text.trim raw = d := by
  simp only [ofText?]
  split
  · next h => simp [h]
  · next h =>
    split
    · next hn => simp [h, hn]
    · next hn => simp [h, hn]

theorem ofText?_eq_group_iff {raw g : String} :
    ofText? raw = some (group g) ↔ Text.trim raw ≠ "" ∧ isNumeric (Text.trim raw) = false ∧ Text.trim raw = g := by
  simp only [ofText?]
  split
  · next h => simp [h]
  · next h =>
    split
    · next hn => simp [h, hn]
    · next hn => simp [h, hn]

theorem digits?_eq_some_iff {t : Target} {d : String} : t.digits? = some d ↔ t = channel d := by
  cases t <;> simp [digits?]

theorem name?_eq_some_iff {t : Target} {g : String} : t.name? = some g ↔ t = group g := by
  cases t <;> simp [name?]

end Target

namespace Targets

theorem mem_channelIds_iff {raws : List String} {k : Int64} :
    k ∈ (ofTexts raws).channelIds ↔ ∃ raw ∈ raws, Text.trim raw ≠ "" ∧
      (Text.trim raw).toList.all Decimal.isDigit = true ∧ (Decimal.value (Text.trim raw).toList : Int) = k.toInt := by
  have hnumber : ∀ s : String, s ≠ "" → s.toList.all Decimal.isDigit = true →
      (Decimal.int64? s = some k ↔ (Decimal.value s.toList : Int) = k.toInt) := by
    intro s hne hs
    rw [Decimal.int64?, Decimal.signed?_of_all_isDigit hne hs, Option.bind_some, Decimal.toInt64?_eq_some_iff]
  simp only [channelIds, ofTexts, List.mem_filterMap, Target.digits?_eq_some_iff]
  constructor
  · rintro ⟨d, ⟨_, ⟨raw, hraw, htext⟩, rfl⟩, hk⟩
    obtain ⟨hne, hd, rfl⟩ := Target.ofText?_eq_channel_iff.mp htext
    exact ⟨raw, hraw, hne, hd, (hnumber _ hne hd).mp hk⟩
  · rintro ⟨raw, hraw, hne, hd, hk⟩
    exact ⟨_, ⟨_, ⟨raw, hraw, Target.ofText?_eq_channel_iff.mpr ⟨hne, hd, rfl⟩⟩, rfl⟩, (hnumber _ hne hd).mpr hk⟩

theorem mem_groups_iff {raws : List String} {g : String} :
    g ∈ (ofTexts raws).groups ↔ ∃ raw ∈ raws, Text.trim raw ≠ "" ∧
      (Text.trim raw).toList.all Decimal.isDigit = false ∧ Text.trim raw = g := by
  simp only [ofTexts, List.mem_filterMap, Target.name?_eq_some_iff]
  constructor
  · rintro ⟨_, ⟨raw, hraw, htext⟩, rfl⟩
    exact ⟨raw, hraw, Target.ofText?_eq_group_iff.mp htext⟩
  · rintro ⟨raw, hraw, hname⟩
    exact ⟨_, ⟨raw, hraw, Target.ofText?_eq_group_iff.mpr hname⟩, rfl⟩

/-- The channels that some text names are those with one of the ids or in one of the groups. -/
theorem exists_namedBy_iff {raws : List String} {c : Channel} :
    (∃ raw ∈ raws, c.NamedBy raw) ↔ c.id ∈ (ofTexts raws).channelIds ∨ c.group ∈ (ofTexts raws).groups := by
  rw [mem_channelIds_iff, mem_groups_iff]
  constructor
  · rintro ⟨raw, hraw, hne, ⟨hd, hv⟩ | ⟨hd, hg⟩⟩
    · exact .inl ⟨raw, hraw, hne, hd, hv⟩
    · exact .inr ⟨raw, hraw, hne, hd, hg⟩
  · rintro (⟨raw, hraw, hne, hd, hv⟩ | ⟨raw, hraw, hne, hd, hg⟩)
    · exact ⟨raw, hraw, hne, .inl ⟨hd, hv⟩⟩
    · exact ⟨raw, hraw, hne, .inr ⟨hd, hg⟩⟩

end Targets

/-! ## Lookups -/

/-- A lookup that succeeds brings the rows that it asks for, in any order. -/
def Exchange.Shows (rows : List Channel) : Exchange → Prop
  | ⟨.channelsWithIds ids, .ok (cs : List Channel)⟩ => cs.Perm (rows.filter fun c => ids.contains c.id)
  | ⟨.channelsInGroups groups, .ok (cs : List Channel)⟩ => cs.Perm (rows.filter fun c => groups.contains c.group)
  | _ => True

/-- The stores in memory bring the rows that they hold. -/
theorem Memory.Stores.shows_exchanges {α : Type} (p : Plan α) (s : Stores) :
    ∀ x ∈ p.exchanges Stores.answer s, x.Shows s.channels.rows := by
  refine Plan.exchanges_of_answers (I := fun t : Stores => t.channels = s.channels) (fun c t ht => ?_) p rfl
  rw [← ht]
  cases c with
  | channelsWithIds ids => exact ⟨.refl _, rfl⟩
  | channelsInGroups groups => exact ⟨.refl _, rfl⟩
  | _ => exact ⟨trivial, rfl⟩

namespace Resolution

/-- A resolution that succeeds merges the rows that have the ids with those in the groups. -/
theorem eq_merge_of_unfolds {t : Targets} {es : List Exchange} {m : Keyed Channel} {rows : List Channel}
    (h : (resolve t).Unfolds es (.ok m)) (hshows : ∀ x ∈ es, x.Shows rows) :
    ∃ byId byGroup, m = merge byId byGroup ∧ byId.Perm (rows.filter fun c => t.channelIds.contains c.id) ∧
      byGroup.Perm (rows.filter fun c => t.groups.contains c.group) := by
  obtain ⟨hes, hm⟩ := resolve_unfolds_iff.mp h
  obtain ⟨byId, byGroup, hbyId, hbyGroup, rfl⟩ := settle_ok hm.symm
  refine ⟨byId, byGroup, rfl, ?_, ?_⟩
  · rcases ids_brought_cases hes with ⟨hids, hbrought⟩ | hx
    · obtain rfl : [] = byId := Except.ok.inj (hbrought.symm.trans hbyId)
      simp [hids]
    · rw [hbyId] at hx
      exact hshows _ hx
  · rcases groups_brought_cases hes with ⟨hgroups, hbrought⟩ | hx
    · obtain rfl : [] = byGroup := Except.ok.inj (hbrought.symm.trans hbyGroup)
      simp [hgroups]
    · rw [hbyGroup] at hx
      exact hshows _ hx

/-! ## Merging -/

theorem nodup_values_merge (byId byGroup : List Channel) : (merge byId byGroup).values.Nodup := by
  have hkeys : (merge byId byGroup).values.map Channel.id = (merge byId byGroup).keys := by
    rw [Keyed.values, Keyed.keys, List.map_map]
    exact List.map_congr_left fun e he => (mem_entries_merge he).2.symm
  refine List.Nodup.of_map Channel.id ?_
  rw [hkeys]
  exact (Keyed.keys_ascending _).imp fun h => Int64.ne_of_lt h

/-- Merging loses no channel when ids tell the channels apart. -/
theorem mem_values_merge {byId byGroup : List Channel}
    (hids : ∀ c ∈ byId ++ byGroup, ∀ d ∈ byId ++ byGroup, c.id = d.id → c = d) {c : Channel} :
    c ∈ (merge byId byGroup).values ↔ c ∈ byId ++ byGroup := by
  constructor
  · intro h
    obtain ⟨e, he, rfl⟩ := List.mem_map.mp h
    exact (mem_entries_merge he).1
  · intro h
    have hpair : (c.id, c) ∈ ((byId ++ byGroup).map fun c => (c.id, c)).reverse :=
      List.mem_reverse.mpr (List.mem_map_of_mem h)
    cases hd : (merge byId byGroup).get? c.id with
    | none =>
      rw [merge, Keyed.get?_ofList, List.lookup_eq_none_iff] at hd
      simpa using hd _ hpair
    | some d =>
      -- the collection may have kept another channel for the id, but there is no other
      have hmem := (Keyed.mem_entries_iff _).mpr hd
      obtain ⟨hdmem, hid⟩ := mem_entries_merge hmem
      rw [hids c h d hdmem hid]
      exact List.mem_map_of_mem hmem

theorem values_merge_perm {rows byId byGroup : List Channel} {p q : Channel → Bool}
    (hrows : (rows.map Channel.id).Nodup) (hid : byId.Perm (rows.filter p)) (hgroup : byGroup.Perm (rows.filter q)) :
    (merge byId byGroup).values.Perm (rows.filter fun c => p c || q c) := by
  have hmem : ∀ c, c ∈ byId ++ byGroup ↔ c ∈ rows ∧ (p c || q c) = true := by
    intro c
    rw [List.mem_append, hid.mem_iff, hgroup.mem_iff, List.mem_filter, List.mem_filter, Bool.or_eq_true,
      ← and_or_left]
  have hids : ∀ c ∈ byId ++ byGroup, ∀ d ∈ byId ++ byGroup, c.id = d.id → c = d := by
    intro c hc d hd
    exact List.inj_on_of_nodup_map hrows ((hmem c).mp hc).1 ((hmem d).mp hd).1
  refine (List.perm_ext_iff_of_nodup (nodup_values_merge _ _) ((List.Nodup.of_map _ hrows).filter _)).mpr fun c => ?_
  rw [mem_values_merge hids, hmem, List.mem_filter]

end Resolution

/-! ## From a request to the queue -/

namespace Submission

theorem prepare_unfolds {r : Request} {es : List Exchange} {n : Notification}
    (h : (prepare r).Unfolds es (.ok n)) : ∃ event channels, r.check = .ok event ∧
      (Resolution.resolve (Targets.ofTexts r.targets)).Unfolds es (.ok channels) ∧
      n = r.toNotification event channels := by
  unfold prepare at h
  cases hc : r.check with
  | error f =>
    rw [Request.validate_of_check_error hc] at h
    cases (Plan.unfolds_done_iff.mp h).2
  | ok event =>
    rw [Request.validate_of_check hc] at h
    obtain ⟨a, xs, ys, rfl, hxs, hys⟩ := Plan.unfolds_bind_iff.mp h
    cases a with
    | error e => cases (Plan.unfolds_done_iff.mp hys).2
    | ok channels =>
      obtain ⟨rfl, hn⟩ := Plan.unfolds_done_iff.mp hys
      cases hn
      rw [List.append_nil]
      exact ⟨event, channels, rfl, hxs, rfl⟩

/-- A submission that succeeds has prepared a notification and handed it off. -/
theorem create_unfolds {sub : Submission} {r : Request} {es : List Exchange} {n : Notification}
    (h : (sub.create r).Unfolds es (.ok n)) : ∃ xs ys, es = xs ++ ys ∧ (prepare r).Unfolds xs (.ok n) ∧
      (sub.handoff n).run.Unfolds ys (.ok ()) := by
  obtain ⟨a, xs, ys, rfl, hxs, hys⟩ := Plan.unfolds_bind_iff.mp h
  cases a with
  | error e => cases (Plan.unfolds_done_iff.mp hys).2
  | ok n' =>
    obtain ⟨b, ys, zs, rfl, hrun, hzs⟩ := Plan.unfolds_bind_iff.mp hys
    rcases b with e | ⟨⟩
    · cases (Plan.unfolds_done_iff.mp hzs).2
    · obtain ⟨rfl, hn⟩ := Plan.unfolds_done_iff.mp hzs
      cases hn
      exact ⟨xs, ys, by rw [List.append_nil], hxs, hrun⟩

/-- A submission that succeeds has appended its notification to the queue, and nothing else. -/
theorem appended_of_create {sub : Submission} {r : Request} {es : List Exchange} {n : Notification}
    (h : (sub.create r).Unfolds es (.ok n)) : appended es = [(sub.topic, Wire.encode n)] := by
  obtain ⟨xs, ys, rfl, hxs, hys⟩ := create_unfolds h
  obtain ⟨m, -, hys⟩ := (Handoff.Progress.begun.unfolds hys).of_ok
  rw [List.nil_append] at hys
  have hlookups : xs.filterMap appended? = [] := appended_of_lookups ((prepare_within r).unfolds hxs)
  rw [appended, List.filterMap_append, hlookups, hys]
  rfl

end Submission

/-! ## From the queue to the channels -/

/-- The call that brings a titled text to a channel. -/
def Channel.due (c : Channel) (title message : String) : Call :=
  match c.platform with
  | .email => .sendEmail ⟨c.target, title, message⟩
  | .slack => .post c.target (.object [("text", .text (title ++ ": " ++ message))])
  | .discord => .post c.target (.object [("content", .text (title ++ ": " ++ message))])

namespace Dispatch

theorem delivery_eq_due (n : Notification) (c : Channel) : delivery n c = c.due n.title n.message := by
  unfold delivery Channel.due
  cases c.platform <;> rfl

theorem deliveries_eq_due (n : Notification) :
    deliveries n = n.channels.values.map fun c => c.due n.title n.message :=
  List.map_congr_left fun c _ => delivery_eq_due n c

/-- A dispatch attempts the deliveries of its notification, each once, and no others. -/
theorem attempts_perm {n : Notification} {es : List Exchange} {a : Except RelayError Outcome}
    (h : (deliver n).Unfolds es a) : ((es.map Exchange.call).filter Call.isDelivery).Perm (deliveries n) := by
  obtain ⟨rs, xs, ys, rfl, hperm, hys⟩ := deliver_unfolds_iff.mp h
  have hxs : (xs.map Exchange.call).Perm (deliveries n) := by
    have hcalls := hperm.map Exchange.call
    rwa [Call.map_call_exchanges] at hcalls
  have hall : (xs.map Exchange.call).filter Call.isDelivery = xs.map Exchange.call :=
    List.filter_eq_self.mpr (List.forall_mem_map.mpr (isDelivery_of_perm hperm))
  have hnone : (ys.map Exchange.call).filter Call.isDelivery = [] := by
    cases hys <;> rfl
  rw [List.map_append, List.filter_append, hall, hnone, List.append_nil]
  exact hxs

end Dispatch

/-- **A notification reaches those whom its request names.** Let the ids of the stored channels be distinct, and let the
lookups of a submission bring the stored channels that they ask for, in any order. If the submission succeeds, it has
put one payload into the queue, and whatever the dispatch of that payload goes through, it attempts one delivery of the
title and the sentence about the event to each stored channel that some target of the request names, and no other
delivery. -/
theorem Submission.reaches_the_named {sub : Submission} {r : Request} {rows : List Channel} {es : List Exchange}
    {n : Notification} (hrows : (rows.map Channel.id).Nodup) (hcreate : (sub.create r).Unfolds es (.ok n))
    (hshows : ∀ x ∈ es, x.Shows rows) :
    ∃ event payload, r.event = some event ∧ appended es = [(sub.topic, payload)] ∧
      (∃ xs a, (Dispatch.dispatch payload).Unfolds xs a) ∧
      ∀ xs a, (Dispatch.dispatch payload).Unfolds xs a → ((xs.map Exchange.call).filter Call.isDelivery).Perm
        ((rows.filter fun c => ∃ raw ∈ r.targets, c.NamedBy raw).map fun c => c.due r.title event.sentence) := by
  have happended := appended_of_create hcreate
  obtain ⟨xs, ys, rfl, hprepare, -⟩ := create_unfolds hcreate
  obtain ⟨event, channels, hcheck, hresolve, rfl⟩ := prepare_unfolds hprepare
  obtain ⟨byId, byGroup, rfl, hid, hgroup⟩ := Resolution.eq_merge_of_unfolds hresolve
    fun x hx => hshows x (List.mem_append_left _ hx)
  have hvalues := Resolution.values_merge_perm hrows hid hgroup
  refine ⟨event, _, Request.event_of_check hcheck, happended, Plan.exists_unfolds _, fun zs a hzs => ?_⟩
  have hnonneg : (0 : Int64) ≤ 0 := by decide
  rw [Dispatch.dispatch_of_decode (decode_encode_notification _) hnonneg] at hzs
  refine (Dispatch.attempts_perm hzs).trans ?_
  have hnamed : (fun c : Channel => decide (∃ raw ∈ r.targets, c.NamedBy raw)) = fun c =>
      (Targets.ofTexts r.targets).channelIds.contains c.id || (Targets.ofTexts r.targets).groups.contains c.group := by
    funext c
    simp [Targets.exists_namedBy_iff]
  rw [hnamed, Dispatch.deliveries_eq_due]
  exact hvalues.map _

/-- A channel on each platform, and one more. -/
def staff : List Channel :=
  [⟨7, .email, "ann@example.com", "ops"⟩, ⟨8, .slack, "https://slack", "ops"⟩, ⟨9, .discord, "https://discord", "dev"⟩,
    ⟨10, .email, "qa@example.com", "qa"⟩]

/-- A request that names one of the channels three times, two of them once, and a number that is too large. -/
def summons : Request where
  uuid := "a"
  title := "Payment"
  message := ""
  targets := [" 007 ", "ops", "7", "dev ", "99999999999999999999"]
  event := some ⟨"approved", "EUR", "ann", "bob", "transfer", 1, 100⟩

theorem Submission.reaches_the_named_staff :
    ∃ payload message, (∃ xs a, (Dispatch.dispatch payload).Unfolds xs a) ∧
      ∀ xs a, (Dispatch.dispatch payload).Unfolds xs a → ((xs.map Exchange.call).filter Call.isDelivery).Perm
        [.sendEmail ⟨"ann@example.com", "Payment", message⟩,
          .post "https://slack" (.object [("text", .text ("Payment: " ++ message))]),
          .post "https://discord" (.object [("content", .text ("Payment: " ++ message))])] := by
  obtain ⟨n, hn⟩ : ∃ n, (((⟨"n", 1000⟩ : Submission).create summons).run Memory.Stores.answer
      (Memory.Stores.ofChannels staff)).1 = .ok n := ⟨_, rfl⟩
  have hcreate := Plan.unfolds_run ((⟨"n", 1000⟩ : Submission).create summons) Memory.Stores.answer
    (Memory.Stores.ofChannels staff)
  rw [hn] at hcreate
  have hids : (staff.map Channel.id).Nodup := by decide
  obtain ⟨event, payload, -, -, hexists, hdispatch⟩ := Submission.reaches_the_named hids hcreate
    (Memory.Stores.shows_exchanges _ _)
  exact ⟨payload, event.sentence, hexists, hdispatch⟩

end Courier
