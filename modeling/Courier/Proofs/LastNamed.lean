import Courier.Memory.Stores
import Courier.Proofs.Blanks
import Courier.Proofs.Lookups
import Courier.Proofs.Recipients

/-!
# What texts resolve to over rows

Over rows of channels, also with ids that come twice, each id resolves to the last channel with it among the rows that a
text asks for by their number, followed by those that a text asks for by their group (`Resolution.resolved_last_named`).
So only what texts ask for matters: texts may be put in another order, come twice, stand between blanks, or be joined by
texts that ask for nothing (`Resolution.Restates`).
-/

namespace Courier

/-! ## What texts ask for -/

namespace Channel

/-- A text asks for a channel by its number: trimmed, it is the number in ASCII digits. -/
def NumberedBy (c : Channel) (raw : String) : Prop :=
  Text.trim raw ≠ "" ∧ (Text.trim raw).toList.all Decimal.isDigit = true ∧
    (Decimal.value (Text.trim raw).toList : Int) = c.id.toInt

/-- A text asks for a channel by its group: trimmed, it is the name of the group, and not of digits only. -/
def GroupedBy (c : Channel) (raw : String) : Prop :=
  Text.trim raw ≠ "" ∧ (Text.trim raw).toList.all Decimal.isDigit = false ∧ Text.trim raw = c.group

instance (c : Channel) (raw : String) : Decidable (c.NumberedBy raw) := inferInstanceAs (Decidable (_ ∧ _))

instance (c : Channel) (raw : String) : Decidable (c.GroupedBy raw) := inferInstanceAs (Decidable (_ ∧ _))

end Channel

/-- The exchange of a lookup that brings the rows it asks for, in their order. -/
def Exchange.Lists (rows : List Channel) : Exchange → Prop
  | ⟨.channelsWithIds ids, r⟩ => r = .ok (rows.filter fun c => ids.contains c.id)
  | ⟨.channelsInGroups groups, r⟩ => r = .ok (rows.filter fun c => groups.contains c.group)
  | _ => True

/-- The stores in memory bring the rows that they hold. -/
theorem Memory.Stores.lists_exchanges {α : Type} (p : Plan α) (s : Stores) :
    ∀ x ∈ p.exchanges Stores.answer s, x.Lists s.channels.rows := by
  refine Plan.exchanges_of_answers (I := fun t : Stores => t.channels = s.channels) (fun c t ht => ?_) p rfl
  rw [← ht]
  cases c with
  | channelsWithIds ids => exact ⟨rfl, rfl⟩
  | channelsInGroups groups => exact ⟨rfl, rfl⟩
  | _ => exact ⟨trivial, rfl⟩

namespace Resolution

/-- The channels that some of the texts ask for, in the order of the rows: those asked for by their number, and then
those asked for by their group. -/
def asked (rows : List Channel) (raws : List String) : List Channel :=
  (rows.filter fun c => ∃ raw ∈ raws, c.NumberedBy raw) ++ rows.filter fun c => ∃ raw ∈ raws, c.GroupedBy raw

/-- The last of some channels that has an id. -/
def lastWith? (k : Int64) (cs : List Channel) : Option Channel := (cs.filter fun c => c.id = k).getLast?

/-- What texts resolve to over stores in memory that hold some rows. -/
def resolved (rows : List Channel) (raws : List String) : Except RelayError (Keyed Channel) :=
  ((resolve (Targets.ofTexts raws)).run Memory.Stores.answer (.ofChannels rows)).1

variable {rows : List Channel} {raws : List String}

/-! ## Lookups over rows -/

section Listed

variable {t : Targets} {es : List Exchange} (hes : (es.map Exchange.call).Perm (lookups t))
  (hlists : ∀ x ∈ es, x.Lists rows)

include hes hlists

theorem ids_brought_of_lists : Side.ids.brought es = .ok (rows.filter fun c => t.channelIds.contains c.id) := by
  rcases ids_brought_cases hes with ⟨hids, hbrought⟩ | hx
  · rw [hbrought, hids]
    exact congrArg Except.ok (List.filter_eq_nil_iff.mpr fun _ _ => Bool.false_ne_true).symm
  · exact hlists _ hx

theorem groups_brought_of_lists : Side.groups.brought es = .ok (rows.filter fun c => t.groups.contains c.group) := by
  rcases groups_brought_cases hes with ⟨hgroups, hbrought⟩ | hx
  · rw [hbrought, hgroups]
    exact congrArg Except.ok (List.filter_eq_nil_iff.mpr fun _ _ => Bool.false_ne_true).symm
  · exact hlists _ hx

end Listed

theorem filter_numbered : rows.filter (fun c => (Targets.ofTexts raws).channelIds.contains c.id) =
    rows.filter fun c => ∃ raw ∈ raws, c.NumberedBy raw := by
  refine List.filter_congr fun c _ => ?_
  rw [Bool.eq_iff_iff, List.contains_iff_mem, Targets.mem_channelIds_iff, decide_eq_true_iff]
  exact Iff.rfl

theorem filter_grouped : rows.filter (fun c => (Targets.ofTexts raws).groups.contains c.group) =
    rows.filter fun c => ∃ raw ∈ raws, c.GroupedBy raw := by
  refine List.filter_congr fun c _ => ?_
  rw [Bool.eq_iff_iff, List.contains_iff_mem, Targets.mem_groups_iff, decide_eq_true_iff]
  exact Iff.rfl

/-- In whatever order the lookups are answered, a resolution over rows brings what is asked for, by the ids. -/
theorem eq_of_lists {es : List Exchange} {a : Except RelayError (Keyed Channel)}
    (h : (resolve (Targets.ofTexts raws)).Unfolds es a) (hlists : ∀ x ∈ es, x.Lists rows) :
    a = .ok (Keyed.ofList ((asked rows raws).map fun c => (c.id, c))) := by
  obtain ⟨hes, rfl⟩ := resolve_unfolds_iff.mp h
  rw [ids_brought_of_lists hes hlists, groups_brought_of_lists hes hlists, filter_numbered, filter_grouped]
  rfl

theorem resolved_eq (rows : List Channel) (raws : List String) :
    resolved rows raws = .ok (Keyed.ofList ((asked rows raws).map fun c => (c.id, c))) :=
  eq_of_lists (Plan.unfolds_run _ _ _) (Memory.Stores.lists_exchanges _ (.ofChannels rows))

/-! ## The last channel with an id -/

theorem lookup_pairs (cs : List Channel) (k : Int64) :
    (cs.map fun c => (c.id, c)).lookup k = cs.find? fun c => c.id = k := by
  induction cs with
  | nil => rfl
  | cons c cs ih =>
    rw [List.map_cons, List.lookup_cons, List.find?_cons, ih]
    by_cases hk : c.id = k
    · simp [hk]
    · have hbeq : (k == c.id) = false := beq_false_of_ne (Ne.symm hk)
      simp [hk, hbeq]

theorem get?_ofList_pairs (cs : List Channel) (k : Int64) :
    (Keyed.ofList (cs.map fun c => (c.id, c))).get? k = lastWith? k cs := by
  rw [Keyed.get?_ofList, ← List.map_reverse, lookup_pairs, lastWith?, List.getLast?_eq_head?_reverse,
    ← List.filter_reverse, List.head?_filter]

theorem mem_keys_ofList_pairs (cs : List Channel) (k : Int64) :
    k ∈ (Keyed.ofList (cs.map fun c => (c.id, c))).keys ↔ ∃ c ∈ cs, c.id = k := by
  have hkeys : ∀ m : Keyed Channel, k ∈ m.keys ↔ ∃ c, m.get? k = some c := by
    intro m
    simp only [Keyed.keys, List.mem_map, ← Keyed.mem_entries_iff]
    constructor
    · rintro ⟨⟨_, c⟩, he, rfl⟩
      exact ⟨c, he⟩
    · rintro ⟨c, he⟩
      exact ⟨_, he, rfl⟩
  rw [hkeys, get?_ofList_pairs, lastWith?]
  constructor
  · rintro ⟨c, hc⟩
    obtain ⟨hmem, hk⟩ := List.mem_filter.mp (List.mem_of_getLast? hc)
    exact ⟨c, hmem, of_decide_eq_true hk⟩
  · rintro ⟨c, hmem, hk⟩
    have hne : (cs.filter fun c => c.id = k) ≠ [] :=
      List.ne_nil_of_mem (List.mem_filter.mpr ⟨hmem, decide_eq_true hk⟩)
    exact ⟨_, List.getLast?_eq_getLast_of_ne_nil hne⟩

/-! ## Texts that ask for the same -/

/-- Texts said in another way: in another order, repeated, with blanks around them, or with texts among them that are
blank or the digits of a number above the 64-bit range. -/
inductive Restates : List String → List String → Prop
  | permuted {raws raws' : List String} (h : raws.Perm raws') : Restates raws raws'
  | repeated {raw : String} {raws : List String} (h : raw ∈ raws) : Restates raws (raw :: raws)
  | padded {raw a b : String} {raws : List String} (ha : Text.isBlank a = true) (hb : Text.isBlank b = true) :
    Restates (raw :: raws) ((a ++ raw ++ b) :: raws)
  | blank {raw : String} {raws : List String} (h : Text.isBlank raw = true) : Restates raws (raw :: raws)
  | tooLarge {raw : String} {raws : List String} (hd : raw.toList.all Decimal.isDigit = true)
    (h : 2 ^ 63 ≤ Decimal.value raw.toList) : Restates raws (raw :: raws)
  | trans {raws raws' raws'' : List String} (h : Restates raws raws') (h' : Restates raws' raws'') :
    Restates raws raws''

/-- Restated texts ask for the same channels in the same ways. -/
theorem Restates.asks {raws raws' : List String} (h : Restates raws raws') (c : Channel) :
    ((∃ raw ∈ raws, c.NumberedBy raw) ↔ ∃ raw ∈ raws', c.NumberedBy raw) ∧
      ((∃ raw ∈ raws, c.GroupedBy raw) ↔ ∃ raw ∈ raws', c.GroupedBy raw) := by
  induction h with
  | permuted h => simp only [h.mem_iff, and_self]
  | @repeated raw raws h =>
    simp only [List.exists_mem_cons_iff]
    exact ⟨⟨.inr, fun h' => h'.elim (fun hc => ⟨raw, h, hc⟩) id⟩, ⟨.inr, fun h' => h'.elim (fun hc => ⟨raw, h, hc⟩) id⟩⟩
  | padded ha hb =>
    simp only [List.exists_mem_cons_iff, Channel.NumberedBy, Channel.GroupedBy, Text.trim_append _ ha hb, and_self]
  | blank h =>
    have htrim := Text.isBlank_iff_trim_eq.mp h
    have hnumber : ¬ c.NumberedBy _ := fun hc => hc.1 htrim
    have hgroup : ¬ c.GroupedBy _ := fun hc => hc.1 htrim
    simp only [List.exists_mem_cons_iff, hnumber, hgroup, false_or, and_self]
  | @tooLarge raw raws hd h =>
    have htrim : Text.trim raw = raw :=
      Text.trim_eq_self fun d hmem => Decimal.isBlankChar_of_isDigit (List.all_eq_true.mp hd d hmem)
    have hnumber : ¬ c.NumberedBy raw := by
      rintro ⟨-, -, hvalue⟩
      rw [htrim] at hvalue
      have hlt := c.id.toInt_lt
      omega
    have hgroup : ¬ c.GroupedBy raw := by
      rintro ⟨-, hnot, -⟩
      rw [htrim, hd] at hnot
      cases hnot
    simp only [List.exists_mem_cons_iff, hnumber, hgroup, false_or, and_self]
  | trans _ _ ih ih' => exact ⟨ih.1.trans ih'.1, ih.2.trans ih'.2⟩

theorem asked_of_restates {raws raws' : List String} (h : Restates raws raws') :
    asked rows raws = asked rows raws' := by
  simp only [asked, (h.asks _).1, (h.asks _).2]

theorem exists_asked_append_iff {raws' : List String} {k : Int64} :
    (∃ c ∈ asked rows (raws ++ raws'), c.id = k) ↔
      (∃ c ∈ asked rows raws, c.id = k) ∨ ∃ c ∈ asked rows raws', c.id = k := by
  have hmem : ∀ c, c ∈ asked rows (raws ++ raws') ↔ c ∈ asked rows raws ∨ c ∈ asked rows raws' := by
    intro c
    simp only [asked, List.mem_append, List.mem_filter, decide_eq_true_eq, or_and_right, exists_or, and_or_left]
    exact or_or_or_comm
  simp only [hmem, or_and_right, exists_or]

/-- **Each id resolves to the last channel with it that is asked for**, by number and then by group, in the order of the
rows and whatever the order in which the lookups are answered. Each channel stands under its own id. Texts that are
restated resolve to the same, and what two lists of texts ask for in a row has the ids that either asks for. -/
theorem resolved_last_named (rows : List Channel) (raws : List String) : ∃ m, resolved rows raws = .ok m ∧
    (∀ es a, (resolve (Targets.ofTexts raws)).Unfolds es a → (∀ x ∈ es, x.Lists rows) → a = .ok m) ∧
    (∀ k, m.get? k = lastWith? k (asked rows raws)) ∧
    (∀ e ∈ m.entries, e.1 = e.2.id) ∧
    (∀ raws', Restates raws raws' → resolved rows raws' = .ok m) ∧
    ∀ raws' m', resolved rows raws' = .ok m' →
      ∃ u, resolved rows (raws ++ raws') = .ok u ∧ ∀ k, k ∈ u.keys ↔ k ∈ m.keys ∨ k ∈ m'.keys := by
  refine ⟨_, resolved_eq rows raws, fun es a => eq_of_lists, get?_ofList_pairs _, fun e he => ?_, fun raws' h => ?_,
    fun raws' m' h => ⟨_, resolved_eq rows (raws ++ raws'), fun k => ?_⟩⟩
  · obtain ⟨c, -, rfl⟩ := List.mem_map.mp (Keyed.mem_of_mem_ofList he)
    rfl
  · rw [resolved_eq, asked_of_restates h]
  · rw [resolved_eq] at h
    cases h
    rw [mem_keys_ofList_pairs, mem_keys_ofList_pairs, mem_keys_ofList_pairs, exists_asked_append_iff]

/-- Rows with an id that comes twice, in different groups. -/
def twice : List Channel := [⟨1, .email, "a@example.com", "ops"⟩, ⟨1, .slack, "https://slack", "desk"⟩,
  ⟨2, .discord, "https://discord", "ops"⟩]

theorem resolved_last_named_twice : ∃ m, resolved twice ["1", "ops"] = .ok m ∧
    m.get? 1 = some ⟨1, .email, "a@example.com", "ops"⟩ ∧
    (∀ a, (resolve (Targets.ofTexts ["1", "ops"])).Unfolds
      [⟨.channelsInGroups ["ops"], .ok [⟨1, .email, "a@example.com", "ops"⟩, ⟨2, .discord, "https://discord", "ops"⟩]⟩,
        ⟨.channelsWithIds [1], .ok [⟨1, .email, "a@example.com", "ops"⟩, ⟨1, .slack, "https://slack", "desk"⟩]⟩] a →
      a = .ok m) ∧
    resolved twice ["99999999999999999999", "", "1", "1", "\tops "] = .ok m ∧
    ∃ u, resolved twice ["1", "ops", "desk"] = .ok u ∧ (1 : Int64) ∈ u.keys := by
  obtain ⟨m, hm, hunfolds, hlast, -, hrestates, hunion⟩ := resolved_last_named twice ["1", "ops"]
  obtain ⟨m', hm', -⟩ := resolved_last_named twice ["desk"]
  obtain ⟨u, hu, hkeys⟩ := hunion ["desk"] m' hm'
  have hgroup : m.get? 1 = some ⟨1, .email, "a@example.com", "ops"⟩ := (hlast 1).trans rfl
  have hone : (1 : Int64) ∈ m.keys := List.mem_map_of_mem (m.mem_entries_iff.mpr hgroup)
  have hpadded : Restates ["ops", "1"] ["\tops ", "1"] :=
    .padded (a := "\t") (b := " ") (by decide) (by decide)
  have hjoined : Restates ["1", "\tops "] ["99999999999999999999", "", "1", "1", "\tops "] :=
    ((Restates.repeated List.mem_cons_self).trans (.blank (by decide))).trans (.tooLarge (by decide) (by decide))
  have hrestated : Restates ["1", "ops"] ["99999999999999999999", "", "1", "1", "\tops "] :=
    ((Restates.permuted (.swap _ _ _)).trans hpadded).trans ((Restates.permuted (.swap _ _ _)).trans hjoined)
  refine ⟨m, hm, hgroup, fun a h => hunfolds _ a h fun x hx => ?_, hrestates _ hrestated, u, hu,
    (hkeys 1).mpr (.inl hone)⟩
  rcases List.mem_pair.mp hx with rfl | rfl <;> rfl

end Resolution

end Courier
