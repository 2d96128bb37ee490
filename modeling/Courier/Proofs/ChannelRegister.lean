import Courier.Proofs.Blanks
import Courier.Proofs.Recipients
import Courier.Registration
import Courier.Service

/-!
# The register of channels

A channel that was accepted would be accepted again as it stands (`Channel.Regular`), so its group, as the text of a
target, names a group and no id. An order to create or to delete a channel alters the register in one of three ways
(`Registration.carryOut_alters`). Each of them keeps the rows regular, in the order of their ids, and with ids that were
given out (`Memory.Channels.Sound`), and an id that is gone stays gone (`Memory.Channels.Gone`). Merging rows in the order
of their ids changes nothing (`Resolution.entries_merge`); so, after any orders, targets resolve to what is registered
(`Registration.registered_channels_resolve`).
-/

namespace Courier

open Memory

/-! ## Channels that may be registered -/

theorem ChannelDraft.validate_eq_ok_iff {d : ChannelDraft} {p : Platform} :
    d.validate = .ok p ↔ Platform.ofName? d.platform = some p ∧ Text.trim d.target ≠ "" ∧ Text.trim d.group ≠ "" ∧
      Target.isNumeric (Text.trim d.group) = false ∧ p.accepts (Text.trim d.target) = true := by
  unfold validate
  cases Platform.ofName? d.platform with
  | none => simp
  | some q =>
    dsimp only
    constructor
    · intro h
      repeat' split at h
      all_goals cases h
      simp_all
    · rintro ⟨hq, htarget, hgroup, hnumeric, haccepts⟩
      cases hq
      rw [if_neg htarget, if_neg hgroup, if_neg (by simp [hnumeric]), if_pos haccepts]

/-- A channel that would be registered as it is. -/
structure Channel.Regular (c : Channel) : Prop where
  valid : (ChannelDraft.mk c.platform.name c.target c.group).validate = .ok c.platform
  target : Text.trim c.target = c.target
  group : Text.trim c.group = c.group

/-- What is registered of an accepted draft would be registered as it is. -/
theorem Channel.regular_of_validate {d : ChannelDraft} {p : Platform} (h : d.validate = .ok p) (id : Int64) :
    (Channel.mk id p (Text.trim d.target) (Text.trim d.group)).Regular where
  valid := by
    obtain ⟨-, hrest⟩ := ChannelDraft.validate_eq_ok_iff.mp h
    rw [ChannelDraft.validate_eq_ok_iff, Text.trim_trim, Text.trim_trim]
    exact ⟨p.ofName?_name, hrest⟩
  target := Text.trim_trim _
  group := Text.trim_trim _

namespace Channel.Regular

variable {c : Channel}

theorem target_ne (h : c.Regular) : c.target ≠ "" := by
  obtain ⟨-, hne, -⟩ := ChannelDraft.validate_eq_ok_iff.mp h.valid
  rwa [h.target] at hne

theorem group_ne (h : c.Regular) : c.group ≠ "" := by
  obtain ⟨-, -, hne, -⟩ := ChannelDraft.validate_eq_ok_iff.mp h.valid
  rwa [h.group] at hne

theorem not_numeric (h : c.Regular) : Target.isNumeric c.group = false := by
  obtain ⟨-, -, -, hnumeric, -⟩ := ChannelDraft.validate_eq_ok_iff.mp h.valid
  rwa [h.group] at hnumeric

theorem accepts (h : c.Regular) : c.platform.accepts c.target = true := by
  obtain ⟨-, -, -, -, haccepts⟩ := ChannelDraft.validate_eq_ok_iff.mp h.valid
  rwa [h.target] at haccepts

theorem at_mem_target (h : c.Regular) (hplatform : c.platform = .email) : '@' ∈ c.target.toList := by
  have haccepts := h.accepts
  rw [hplatform] at haccepts
  simpa [Platform.accepts, Platform.isChat] using haccepts

theorem target_eq_append (h : c.Regular) (hplatform : c.platform ≠ .email) :
    ∃ rest, c.target = "http://" ++ rest ∨ c.target = "https://" ++ rest := by
  have hfront : ∀ front, startsWith front c.target = true → ∃ rest, c.target = front ++ rest := by
    intro front hfront
    obtain ⟨rest, hrest⟩ := List.isPrefixOf_iff_prefix.mp hfront
    exact ⟨.ofList rest, by rw [← String.toList_inj, String.toList_append, String.toList_ofList, hrest]⟩
  have hchat : c.platform.isChat = true := by
    cases hp : c.platform <;> first | exact absurd hp hplatform | rfl
  have haccepts := h.accepts
  rw [Platform.accepts, if_pos hchat, Bool.or_eq_true] at haccepts
  rcases haccepts with h | h
  · obtain ⟨rest, hrest⟩ := hfront _ h
    exact ⟨rest, .inr hrest⟩
  · obtain ⟨rest, hrest⟩ := hfront _ h
    exact ⟨rest, .inl hrest⟩

/-- A text that is a group, but for blanks around it, names that group and no id. -/
theorem ofTexts_group (h : c.Regular) {a b : String} (ha : Text.isBlank a = true) (hb : Text.isBlank b = true) :
    Targets.ofTexts [a ++ c.group ++ b] = ⟨[], [c.group]⟩ := by
  have htext : Target.ofText? (a ++ c.group ++ b) = some (.group c.group) := by
    rw [Target.ofText?_eq_group_iff, Text.trim_append _ ha hb, h.group]
    exact ⟨h.group_ne, h.not_numeric, rfl⟩
  simp [Targets.ofTexts, htext, Target.digits?, Target.name?]

end Channel.Regular

/-! ## Ids as texts -/

/-- The digits of an id above zero name that id and no group. -/
theorem Targets.ofTexts_ofInt {id : Int64} (h : 0 < id.toInt) :
    (Targets.ofTexts [Decimal.ofInt id.toInt]).channelIds = [id] ∧
      (Targets.ofTexts [Decimal.ofInt id.toInt]).groups = [] := by
  obtain ⟨n, hn⟩ := Int.eq_ofNat_of_zero_le (Int.le_of_lt h)
  have hdigits : (Decimal.ofInt id.toInt).toList = Decimal.digits n := by
    rw [hn, Decimal.ofInt, String.toList_ofList]
    rfl
  have htrim : Text.trim (Decimal.ofInt id.toInt) = Decimal.ofInt id.toInt :=
    Text.trim_eq_self fun c hc => Decimal.isBlankChar_of_isDigit (Decimal.isDigit_of_mem_digits (hdigits ▸ hc))
  have hne : Decimal.ofInt id.toInt ≠ "" := fun h => Decimal.digits_ne_nil n (by rw [← hdigits, h]; rfl)
  have hnumeric : Target.isNumeric (Decimal.ofInt id.toInt) = true := by
    rw [Target.isNumeric, hdigits]
    exact List.all_eq_true.mpr fun c => Decimal.isDigit_of_mem_digits
  have htext : Target.ofText? (Decimal.ofInt id.toInt) = some (.channel (Decimal.ofInt id.toInt)) := by
    rw [Target.ofText?_eq_channel_iff, htrim]
    exact ⟨hne, hnumeric, rfl⟩
  constructor
  · simp [Targets.channelIds, Targets.ofTexts, htext, Target.digits?, Decimal.int64?_ofInt]
  · simp [Targets.ofTexts, htext, Target.name?]

/-! ## Merging ascending channels -/

/-- Merging channels in the ascending order of their ids leaves them as they are. -/
theorem Resolution.entries_merge {byId byGroup : List Channel}
    (h : (byId ++ byGroup).Pairwise fun c d => c.id < d.id) :
    (merge byId byGroup).entries = (byId ++ byGroup).map fun c => (c.id, c) :=
  Keyed.entries_ofList (List.pairwise_map.mpr h)

/-! ## Orders -/

namespace Service

/-- The service when every statement of its database fails for some reason, or none fails. -/
def under (s : Service) (fault : Option String) : Service := { s with database := { s.database with fault } }

/-- The service with another register of channels, one statement later. -/
def channelled (s : Service) (t : Channels) : Service :=
  { s with database := { s.database with channels := t, statements := s.database.statements + 1 } }

/-- The service one statement later. -/
def counted (s : Service) : Service :=
  { s with database := { s.database with statements := s.database.statements + 1 } }

end Service

namespace Registration

/-- What can be asked of the register. -/
inductive Change
  | create (d : ChannelDraft)
  | delete (id : Int64)

/-- A change that is asked for, and why every statement of the database fails by then, if it does. -/
structure Order where
  change : Change
  fault : Option String

/-- The service after an order. -/
def carryOut (s : Service) (o : Order) : Service :=
  match o.change with
  | .create d => ((addChannel d).run Service.answer (s.under o.fault)).2
  | .delete id => ((removeChannel id).run Service.answer (s.under o.fault)).2

def carryAll (s : Service) (os : List Order) : Service := os.foldl carryOut s

variable {s : Service}

theorem addChannel_run (d : ChannelDraft) (s : Service) : (addChannel d).run Service.answer s =
    match d.validate, s.database.fault with
    | .error f, _ => (.error (.validation f.message), s)
    | .ok _, some e => (.error (.database (Database.errorText e)), s)
    | .ok p, none =>
      (.ok (s.database.channels.add p (Text.trim d.target) (Text.trim d.group)).1,
        s.channelled (s.database.channels.add p (Text.trim d.target) (Text.trim d.group)).2) := by
  unfold addChannel
  cases d.validate with
  | error f => rfl
  | ok p =>
    simp only [Plan.run, Service.answer, Database.answer?]
    cases h : s.database.fault with
    | some e =>
      rw [Database.statement_of_fault h]
      rfl
    | none =>
      rw [Database.statement_of_none h]
      rfl

theorem removeChannel_run (id : Int64) (s : Service) : (removeChannel id).run Service.answer s =
    match s.database.fault with
    | some e => (.error (.database (Database.errorText e)), s)
    | none => (.ok (s.database.channels.remove id).1, s.channelled (s.database.channels.remove id).2) := by
  simp only [removeChannel, Plan.run, Service.answer, Database.answer?]
  cases h : s.database.fault with
  | some e =>
    rw [Database.statement_of_fault h]
    rfl
  | none =>
    rw [Database.statement_of_none h]
    rfl

theorem channel_run (id : Int64) (h : s.database.fault = none) :
    ((channel id).run Service.answer s).1 = found (channelMissing id) (.ok (s.database.channels.find id)) := by
  simp only [channel, Plan.run, Service.answer, Database.answer?, Database.statement_of_none h]
  rfl

theorem groupMembers_run (group : String) (h : s.database.fault = none) :
    ((groupMembers group).run Service.answer s).1 = .ok (s.database.channels.groupMembers group) := by
  simp only [groupMembers, Plan.run, Service.answer, Database.answer?, Database.statement_of_none h]
  rfl

end Registration

namespace Resolution

variable {s : Service}

/-- A resolution over a service merges the channels with the ids and those in the groups. -/
theorem resolve_run (t : Targets) (h : s.database.fault = none) : ((resolve t).run Service.answer s).1 =
    .ok (merge (s.database.channels.withIds t.channelIds) (s.database.channels.inGroups t.groups)) := by
  have hids : s.database.channels.withIds [] = [] := List.filter_eq_nil_iff.mpr fun _ _ => Bool.false_ne_true
  have hgroups : s.database.channels.inGroups [] = [] := List.filter_eq_nil_iff.mpr fun _ _ => Bool.false_ne_true
  unfold resolve
  cases t.channelIds with
  | nil =>
    cases t.groups with
    | nil =>
      rw [hids, hgroups]
      rfl
    | cons g gs =>
      simp only [Plan.run, Plan.answerAll, Service.answer, Database.answer?, Database.statement_of_none h, hids]
      rfl
  | cons i is =>
    cases t.groups with
    | nil =>
      simp only [Plan.run, Plan.answerAll, Service.answer, Database.answer?, Database.statement_of_none h, hgroups]
      rfl
    | cons g gs =>
      -- the second lookup is made one statement later
      have hnext : { s.database with statements := s.database.statements + 1 }.fault = none := h
      simp only [Plan.run, Plan.answerAll, Service.answer, Database.answer?, Database.statement_of_none h,
        Database.statement_of_none hnext]
      rfl

/-- While the database fails, a resolution that succeeds has looked nothing up. -/
theorem resolve_of_fault {t : Targets} {m : Keyed Channel} {reason : String} (hfault : s.database.fault = some reason)
    (h : ((resolve t).run Service.answer s).1 = .ok m) : m = merge [] [] := by
  rcases resolve_cases t with ht | ⟨gs, ht⟩ | ⟨is, ht⟩ | ⟨is, gs, ht⟩ <;> rw [ht] at h
  · exact (Except.ok.inj h).symm
  all_goals
    simp only [Plan.run, Plan.answerAll, Service.answer, Database.answer?, Database.statement_of_fault hfault] at h
    cases h

/-- A resolution shows no channel but those that are registered. -/
theorem mem_rows_of_resolve {t : Targets} {m : Keyed Channel} (h : ((resolve t).run Service.answer s).1 = .ok m)
    {e : Int64 × Channel} (he : e ∈ m.entries) : e.2 ∈ s.database.channels.rows := by
  cases hfault : s.database.fault with
  | some reason =>
    rw [resolve_of_fault hfault h] at he
    cases he
  | none =>
    rw [resolve_run t hfault] at h
    cases h
    rcases List.mem_append.mp (mem_entries_merge he).1 with hmem | hmem
    · exact (List.mem_filter.mp hmem).1
    · exact (List.mem_filter.mp hmem).1

end Resolution

/-! ## What orders keep -/

namespace Registration

/-- The ways in which an order can leave the register. -/
inductive Alters (t : Channels) : Channels → Prop
  | adds {d : ChannelDraft} {p : Platform} (h : d.validate = .ok p) :
    Alters t (t.add p (Text.trim d.target) (Text.trim d.group)).2
  | drops (id : Int64) : Alters t (t.remove id).2
  | spares : Alters t t

theorem carryOut_alters (s : Service) (o : Order) :
    Alters s.database.channels (carryOut s o).database.channels := by
  obtain ⟨change, fault⟩ := o
  have hfault : (s.under fault).database.fault = fault := rfl
  cases change with
  | create d =>
    show Alters _ ((addChannel d).run Service.answer (s.under fault)).2.database.channels
    rw [addChannel_run, hfault]
    cases h : d.validate with
    | error f => exact .spares
    | ok p =>
      cases fault with
      | some e => exact .spares
      | none => exact .adds h
  | delete id =>
    show Alters _ ((removeChannel id).run Service.answer (s.under fault)).2.database.channels
    rw [removeChannel_run, hfault]
    cases fault with
    | some e => exact .spares
    | none => exact .drops id

theorem Alters.used_le {t t' : Channels} (h : Alters t t') : t.used ≤ t'.used := by
  cases h with
  | adds h => exact Nat.le_succ _
  | drops id => exact Nat.le_refl _
  | spares => exact Nat.le_refl _

theorem used_le_carryAll (s : Service) (os : List Order) :
    s.database.channels.used ≤ (carryAll s os).database.channels.used := by
  induction os generalizing s with
  | nil => exact Nat.le_refl _
  | cons o os ih => exact (carryOut_alters s o).used_le.trans (ih (carryOut s o))

/-- What every order keeps, as long as there are ids left, is kept by any number of orders. -/
theorem carryAll_keeps {P : Channels → Prop}
    (hstep : ∀ t t', Alters t t' → t'.used < 2 ^ 63 → P t → P t') (os : List Order) :
    ∀ {s : Service}, (carryAll s os).database.channels.used < 2 ^ 63 → P s.database.channels →
      P (carryAll s os).database.channels := by
  induction os with
  | nil => exact fun _ hs => hs
  | cons o os ih =>
    intro s hused hs
    have hused' := (used_le_carryAll (carryOut s o) os).trans_lt hused
    exact ih hused (hstep _ _ (carryOut_alters s o) hused' hs)

end Registration

namespace Memory.Channels

/-- What every order keeps of the register. -/
structure Sound (t : Channels) : Prop where
  regular : ∀ c ∈ t.rows, c.Regular
  ascending : t.rows.Pairwise fun c d => c.id < d.id
  numbered : ∀ c ∈ t.rows, 0 < c.id.toInt ∧ c.id.toInt ≤ t.used

theorem empty_sound : Sound .empty := ⟨nofun, .nil, nofun⟩

theorem toInt_next {n : Nat} (h : n + 1 < 2 ^ 63) : (Int64.ofNat (n + 1)).toInt = n + 1 := by
  rw [Int64.toInt_ofNat_of_lt h]
  rfl

theorem Sound.altered {t t' : Channels} (ht : t.Sound) (h : Registration.Alters t t') (hused : t'.used < 2 ^ 63) :
    t'.Sound := by
  cases h with
  | @adds d p h =>
    have hnext : (Int64.ofNat (t.used + 1)).toInt = t.used + 1 := toInt_next hused
    -- the new id lies above all that were given out, so the new row is the last one
    have hlast : ∀ c ∈ t.rows, c.id < Int64.ofNat (t.used + 1) := by
      intro c hc
      rw [Int64.lt_iff_toInt_lt, hnext]
      exact Int.lt_add_one_of_le (ht.numbered c hc).2
    refine ⟨fun c hc => ?_, ?_, fun c hc => ?_⟩
    · rcases List.mem_append.mp hc with hc | hc
      · exact ht.regular c hc
      · rw [List.mem_singleton.mp hc]
        exact Channel.regular_of_validate h _
    · refine List.pairwise_append.mpr ⟨ht.ascending, List.pairwise_singleton _ _, fun c hc e he => ?_⟩
      rw [List.mem_singleton.mp he]
      exact hlast c hc
    · show 0 < c.id.toInt ∧ c.id.toInt ≤ ((t.used + 1 : ℕ) : ℤ)
      rcases List.mem_append.mp hc with hc | hc
      · have := ht.numbered c hc
        omega
      · rw [List.mem_singleton.mp hc, hnext]
        omega
  | drops id =>
    have hsub : (t.remove id).2.rows.Sublist t.rows := List.filter_sublist
    exact ⟨fun c hc => ht.regular c (hsub.subset hc), ht.ascending.sublist hsub,
      fun c hc => ht.numbered c (hsub.subset hc)⟩
  | spares => exact ht

/-- An id that has been given away, and is the id of no channel. -/
def Gone (id : Int64) (t : Channels) : Prop := id.toInt ≤ t.used ∧ ∀ c ∈ t.rows, c.id ≠ id

theorem Gone.altered {id : Int64} {t t' : Channels} (ht : t.Gone id) (h : Registration.Alters t t')
    (hused : t'.used < 2 ^ 63) : t'.Gone id := by
  cases h with
  | @adds d p h =>
    have hnext : (Int64.ofNat (t.used + 1)).toInt = t.used + 1 := toInt_next hused
    refine ⟨ht.1.trans (Int.ofNat_le.mpr (Nat.le_succ _)), fun c hc => ?_⟩
    rcases List.mem_append.mp hc with hc | hc
    · exact ht.2 c hc
    · rw [List.mem_singleton.mp hc]
      -- an id that was given out is below the new one
      intro hid
      have hlt : id.toInt < (Int64.ofNat (t.used + 1)).toInt := hnext ▸ Int.lt_add_one_of_le ht.1
      exact Int.ne_of_gt hlt (congrArg Int64.toInt hid)
  | drops k => exact ⟨ht.1, fun c hc => ht.2 c (List.mem_filter.mp hc).1⟩
  | spares => exact ht

theorem Sound.gone_of_remove {t : Channels} (ht : t.Sound) {id : Int64} (h : (t.remove id).1 = true) :
    (t.remove id).2.Gone id := by
  obtain ⟨c, hc, hid⟩ := List.any_eq_true.mp h
  refine ⟨eq_of_beq hid ▸ (ht.numbered c hc).2, fun e he => ?_⟩
  exact ne_of_beq_false (Bool.not_eq_true' _ ▸ (List.mem_filter.mp he).2)

theorem Gone.find_eq_none {t : Channels} {id : Int64} (h : t.Gone id) : t.find id = none :=
  List.find?_eq_none.mpr fun c hc => by simpa using h.2 c hc

/-- Among the rows an id picks the one that has it. -/
theorem Sound.withIds_id {t : Channels} (ht : t.Sound) {c : Channel} (hc : c ∈ t.rows) : t.withIds [c.id] = [c] := by
  obtain ⟨before, after, hrows⟩ := List.append_of_mem hc
  have hasc := ht.ascending
  rw [hrows, List.pairwise_append, List.pairwise_cons] at hasc
  obtain ⟨-, ⟨hafter, -⟩, hbefore⟩ := hasc
  have hnone : ∀ es : List Channel, (∀ e ∈ es, e.id ≠ c.id) → es.filter (fun e => [c.id].contains e.id) = [] := by
    intro es hes
    exact List.filter_eq_nil_iff.mpr fun e he => by simpa using hes e he
  rw [withIds, hrows, List.filter_append, List.filter_cons_of_pos (by simp),
    hnone before fun e he => Int64.ne_of_lt (hbefore e he c List.mem_cons_self),
    hnone after fun e he => (Int64.ne_of_lt (hafter e he)).symm]
  rfl

theorem inGroups_singleton (t : Channels) (group : String) : t.inGroups [group] = t.groupMembers group :=
  List.filter_congr fun c _ => Bool.eq_iff_iff.mpr (by simp)

end Memory.Channels

/-! ## What targets resolve to -/

namespace Resolution

variable {s : Service}

/-- A text that is the group of a channel, but for blanks around it, resolves to the members of that group. -/
theorem resolve_group (hfault : s.database.fault = none) (hs : s.database.channels.Sound) {c : Channel}
    (hc : c ∈ s.database.channels.rows) {a b : String} (ha : Text.isBlank a = true) (hb : Text.isBlank b = true) :
    ∃ m, ((resolve (Targets.ofTexts [a ++ c.group ++ b])).run Service.answer s).1 = .ok m ∧
      m.entries = (s.database.channels.groupMembers c.group).map fun d => (d.id, d) := by
  have hids : Targets.channelIds ⟨[], [c.group]⟩ = [] := rfl
  have hwith : s.database.channels.withIds [] = [] := List.filter_eq_nil_iff.mpr fun _ _ => Bool.false_ne_true
  rw [(hs.regular c hc).ofTexts_group ha hb, resolve_run _ hfault, hids, hwith]
  refine ⟨_, rfl, ?_⟩
  rw [entries_merge, List.nil_append, Channels.inGroups_singleton]
  exact hs.ascending.sublist List.filter_sublist

/-- The digits of the id of a channel resolve to that channel. -/
theorem resolve_id (hfault : s.database.fault = none) (hs : s.database.channels.Sound) {c : Channel}
    (hc : c ∈ s.database.channels.rows) :
    ∃ m, ((resolve (Targets.ofTexts [Decimal.ofInt c.id.toInt])).run Service.answer s).1 = .ok m ∧
      m.entries = [(c.id, c)] := by
  obtain ⟨hids, hgroups⟩ := Targets.ofTexts_ofInt (hs.numbered c hc).1
  have hin : s.database.channels.inGroups [] = [] := List.filter_eq_nil_iff.mpr fun _ _ => Bool.false_ne_true
  rw [resolve_run _ hfault, hids, hgroups, hin, hs.withIds_id hc]
  refine ⟨_, rfl, ?_⟩
  rw [entries_merge, List.append_nil]
  · rfl
  · exact List.pairwise_singleton _ _

end Resolution

/-! ## Runs of orders -/

namespace Registration

variable {s : Service}

/-- A channel that cannot be registered leaves everything as it is. -/
theorem addChannel_error {d : ChannelDraft} {e : ServiceError}
    (h : ((addChannel d).run Service.answer s).1 = .error e) : ((addChannel d).run Service.answer s).2 = s := by
  rw [addChannel_run] at h ⊢
  cases hd : d.validate with
  | error f => rfl
  | ok p =>
    cases hfault : s.database.fault with
    | some reason => rfl
    | none =>
      rw [hd, hfault] at h
      cases h

/-- A removal that fails leaves everything as it is. -/
theorem removeChannel_error {id : Int64} {e : ServiceError}
    (h : ((removeChannel id).run Service.answer s).1 = .error e) :
    ((removeChannel id).run Service.answer s).2 = s := by
  rw [removeChannel_run] at h ⊢
  cases hfault : s.database.fault with
  | some reason => rfl
  | none =>
    rw [hfault] at h
    cases h

/-- Removing what is not there changes nothing. -/
theorem removeChannel_of_absent {id : Int64} (hfault : s.database.fault = none)
    (h : ∀ c ∈ s.database.channels.rows, c.id ≠ id) :
    (removeChannel id).run Service.answer s = (.ok false, s.counted) := by
  have hnone : (s.database.channels.remove id).1 = false :=
    List.any_eq_false.mpr fun c hc => by simpa using h c hc
  have hsame : (s.database.channels.remove id).2 = s.database.channels := by
    rw [Channels.remove, List.filter_eq_self.mpr fun c hc => by simpa using h c hc]
  rw [removeChannel_run, hfault, hnone, hsame]
  rfl

theorem carryAll_append (s : Service) (before after : List Order) :
    carryAll s (before ++ after) = carryAll (carryAll s before) after := List.foldl_append

theorem carryAll_sound (hempty : s.database.channels = .empty) (os : List Order)
    (hused : (carryAll s os).database.channels.used < 2 ^ 63) : (carryAll s os).database.channels.Sound :=
  carryAll_keeps (fun _ _ h hused ht => ht.altered h hused) os hused (hempty ▸ Channels.empty_sound)

/-- A channel that has been removed stays gone. -/
theorem gone_of_removed (hempty : s.database.channels = .empty) {before after : List Order} {id : Int64}
    {fault : Option String}
    (hused : (carryAll s (before ++ ⟨.delete id, fault⟩ :: after)).database.channels.used < 2 ^ 63)
    (h : ((removeChannel id).run Service.answer ((carryAll s before).under fault)).1 = .ok true) :
    (carryAll s (before ++ ⟨.delete id, fault⟩ :: after)).database.channels.Gone id := by
  rw [carryAll_append] at hused ⊢
  have hsound : (carryAll s before).database.channels.Sound :=
    carryAll_sound hempty before ((used_le_carryAll _ _).trans_lt hused)
  refine carryAll_keeps (fun _ _ h hused ht => ht.altered h hused) after hused ?_
  show ((removeChannel id).run Service.answer ((carryAll s before).under fault)).2.database.channels.Gone id
  have hfault : ((carryAll s before).under fault).database.fault = fault := rfl
  rw [removeChannel_run, hfault] at h ⊢
  cases fault with
  | some e => cases h
  | none => exact hsound.gone_of_remove (Except.ok.inj h)

/-- **What is registered can be found, and what is removed cannot.** Let channels be created and deleted from an empty
register on, in any order, while the database may fail for any of these orders; the ids do not run out. Every channel
in the register then would be registered again as it is. As a target, its group names that group and no id, and, with
any blanks around it, resolves to the channels that the register lists for the group; the digits of its id resolve to
the channel alone. A channel that was deleted is not found any more, and no resolution brings it back, whether the
database fails or not. What is rejected changes nothing, nor does deleting what is not there. -/
theorem registered_channels_resolve (s : Service) (hempty : s.database.channels = .empty) (os : List Order)
    (hserial : (carryAll s os).database.channels.used < 2 ^ 63) :
    let t := (carryAll s os).under none
    (∀ c ∈ t.database.channels.rows,
      (ChannelDraft.mk c.platform.name c.target c.group).validate = .ok c.platform ∧
      (Text.trim c.target = c.target ∧ c.target ≠ "") ∧
      (Text.trim c.group = c.group ∧ c.group ≠ "" ∧ Target.isNumeric c.group = false) ∧
      (c.platform = .email → '@' ∈ c.target.toList) ∧
      (c.platform ≠ .email → ∃ rest, c.target = "http://" ++ rest ∨ c.target = "https://" ++ rest) ∧
      Targets.ofTexts [c.group] = ⟨[], [c.group]⟩ ∧
      (∀ a b, Text.isBlank a = true → Text.isBlank b = true → ∃ m cs,
        ((Resolution.resolve (.ofTexts [a ++ c.group ++ b])).run Service.answer t).1 = .ok m ∧
        ((groupMembers c.group).run Service.answer t).1 = .ok cs ∧ m.entries = cs.map fun d => (d.id, d)) ∧
      (∃ m, ((Resolution.resolve (.ofTexts [Decimal.ofInt c.id.toInt])).run Service.answer t).1 = .ok m ∧
        m.entries = [(c.id, c)])) ∧
    (∀ before id fault after, os = before ++ ⟨.delete id, fault⟩ :: after →
      ((removeChannel id).run Service.answer ((carryAll s before).under fault)).1 = .ok true →
      ((channel id).run Service.answer t).1 = .error (.notFound (channelMissing id)) ∧
      ∀ fault' raws m, ((Resolution.resolve (.ofTexts raws)).run Service.answer (t.under fault')).1 = .ok m →
        ∀ e ∈ m.entries, e.2.id ≠ id) ∧
    (∀ u d e, ((addChannel d).run Service.answer u).1 = .error e → ((addChannel d).run Service.answer u).2 = u) ∧
    (∀ u id e, ((removeChannel id).run Service.answer u).1 = .error e →
      ((removeChannel id).run Service.answer u).2 = u) ∧
    (∀ u id, u.database.fault = none → (∀ c ∈ u.database.channels.rows, c.id ≠ id) →
      (removeChannel id).run Service.answer u = (.ok false, u.counted)) := by
  intro t
  have hsound : t.database.channels.Sound := carryAll_sound hempty os hserial
  refine ⟨fun c hc => ?_, fun before id fault after hos hremoved => ?_, fun u d e => addChannel_error,
    fun u id e => removeChannel_error, fun u id => removeChannel_of_absent⟩
  · have hregular := hsound.regular c hc
    have hown : Targets.ofTexts [c.group] = ⟨[], [c.group]⟩ := by
      simpa using hregular.ofTexts_group (a := "") (b := "") rfl rfl
    refine ⟨hregular.valid, ⟨hregular.target, hregular.target_ne⟩, ⟨hregular.group, hregular.group_ne,
      hregular.not_numeric⟩, hregular.at_mem_target, hregular.target_eq_append, hown, fun a b ha hb => ?_,
      Resolution.resolve_id rfl hsound hc⟩
    obtain ⟨m, hm, hentries⟩ := Resolution.resolve_group rfl hsound hc ha hb
    exact ⟨m, _, hm, groupMembers_run c.group rfl, hentries⟩
  · subst hos
    have hgone : t.database.channels.Gone id := gone_of_removed hempty hserial hremoved
    refine ⟨?_, fun fault' raws m hm e he => hgone.2 e.2 (Resolution.mem_rows_of_resolve hm he)⟩
    rw [channel_run id rfl, hgone.find_eq_none]
    rfl

/-- A service without channels. -/
def vacant : Service := .new "key" "t" (Database.empty (fun _ => "") fun _ => .epoch)

/-- Three channels are registered, two are rejected, one of them since the database fails, and the first is deleted. -/
def bustle : List Order :=
  [⟨.create ⟨"slack", " https://h/1", "ops\n"⟩, none⟩, ⟨.create ⟨"email", "a@b", " 15 "⟩, none⟩,
    ⟨.create ⟨"email", "a@b\t", "ops"⟩, none⟩, ⟨.create ⟨"discord", "http://h/2", "ops"⟩, some "down"⟩,
    ⟨.create ⟨"discord", "http://h/2", "on call"⟩, none⟩, ⟨.delete 1, none⟩]

/-- Of a deleted channel and another in its group, the other one is found. -/
theorem registered_channels_resolve_bustle :
    let t := (carryAll vacant bustle).under none
    (∃ m, ((Resolution.resolve (.ofTexts ["\tops "])).run Service.answer t).1 = .ok m ∧
      m.entries = [(2, ⟨2, .email, "a@b", "ops"⟩)]) ∧
    (∃ m, ((Resolution.resolve (.ofTexts ["3"])).run Service.answer t).1 = .ok m ∧
      m.entries = [(3, ⟨3, .discord, "http://h/2", "on call"⟩)]) ∧
    ((channel 1).run Service.answer t).1 = .error (.notFound "Channel 1 not found") := by
  intro t
  obtain ⟨hrows, hdeleted, -⟩ := registered_channels_resolve vacant rfl bustle (by decide +kernel)
  obtain ⟨-, -, -, -, -, -, hgroup, -⟩ := hrows ⟨2, .email, "a@b", "ops"⟩ (by decide +kernel)
  obtain ⟨-, -, -, -, -, -, -, hid⟩ := hrows ⟨3, .discord, "http://h/2", "on call"⟩ (by decide +kernel)
  obtain ⟨m, cs, hm, hcs, hentries⟩ := hgroup "\t" " " rfl rfl
  have hmembers : cs = [⟨2, .email, "a@b", "ops"⟩] := by
    rw [groupMembers_run "ops" rfl] at hcs
    rw [← Except.ok.inj hcs]
    decide +kernel
  rw [hmembers] at hentries
  obtain ⟨hgone, -⟩ := hdeleted (bustle.take 5) 1 none [] rfl (by decide +kernel)
  exact ⟨⟨m, hm, hentries⟩, hid, hgone⟩

end Registration

end Courier
