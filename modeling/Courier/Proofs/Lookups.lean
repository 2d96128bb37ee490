import Courier.Proofs.SubmissionEndings
import Courier.Proofs.Unfolding
import Mathlib.Data.List.Permutation

/-!
# What a resolution looks up

`Resolution.lookups` lists the lookups that targets need. A resolution makes these, each once and in any order, and its
result is a function of what they brought: `Resolution.resolve_unfolds_iff` is all that a resolution can do. The first
failure that counts is that of the lookup by ids (`Resolution.Reports`).
-/

namespace Courier

/-- Exchanges with some calls are, in some order, those with some replies to the calls. -/
theorem Call.exists_exchanges_perm {cs : List Call} {es : List Exchange} (h : (es.map Exchange.call).Perm cs) :
    ∃ rs : Call.Replies cs, es.Perm (Call.exchanges cs rs) := by
  induction cs generalizing es with
  | nil =>
    obtain rfl := List.map_eq_nil_iff.mp h.eq_nil
    exact ⟨(), .refl _⟩
  | cons c cs ih =>
    obtain ⟨x, hx, rfl⟩ := List.mem_map.mp (h.symm.subset List.mem_cons_self)
    obtain ⟨xs, ys, rfl⟩ := List.append_of_mem hx
    have hperm : (xs ++ x :: ys).Perm (x :: (xs ++ ys)) := List.perm_middle
    obtain ⟨rs, hrs⟩ := ih ((hperm.map _).symm.trans h).cons_inv
    exact ⟨(x.reply, rs), hperm.trans (hrs.cons x)⟩

/-- A plan that makes calls at the same time and ends with what their exchanges amount to. -/
theorem Plan.unfolds_gather_amounts_iff {α : Type} {cs : List Call} {f : Call.Replies cs → α} {g : List Exchange → α}
    (hg : ∀ rs es, es.Perm (Call.exchanges cs rs) → f rs = g es) {es : List Exchange} {a : α} :
    (gather cs fun rs => done (f rs)).Unfolds es a ↔ (es.map Exchange.call).Perm cs ∧ a = g es := by
  rw [unfolds_gather_done_iff]
  constructor
  · rintro ⟨rs, hperm, rfl⟩
    exact ⟨(hperm.map _).trans (.of_eq (Call.map_call_exchanges cs rs)), hg rs es hperm⟩
  · rintro ⟨hcalls, rfl⟩
    obtain ⟨rs, hperm⟩ := Call.exists_exchanges_perm hcalls
    exact ⟨rs, hperm, (hg rs es hperm).symm⟩

namespace Resolution

/-- The lookups that targets need: one by the ids that fit into 64 bits when there are any, and one by the groups when
there are any. -/
def lookups (t : Targets) : List Call :=
  (if ∃ d ∈ t.ids, (Decimal.int64? d).isSome = true then [.channelsWithIds (t.ids.filterMap Decimal.int64?)] else []) ++
    if t.groups = [] then [] else [.channelsInGroups t.groups]

/-- The two sides of a resolution. -/
inductive Side
  | ids
  | groups

/-- The reply to a lookup of a side. -/
def Side.reply? : Side → Exchange → Option (Except String (List Channel))
  | .ids, ⟨.channelsWithIds _, r⟩ => some r
  | .groups, ⟨.channelsInGroups _, r⟩ => some r
  | _, _ => none

/-- What was brought by a side; no channels when it was not looked up. -/
def Side.brought (side : Side) (es : List Exchange) : Except String (List Channel) :=
  (es.findSome? side.reply?).getD (.ok [])

variable {t : Targets} {es : List Exchange} {a : Except RelayError (Keyed Channel)}

theorem channelIds_ne_nil_iff : t.channelIds ≠ [] ↔ ∃ d ∈ t.ids, (Decimal.int64? d).isSome = true := by
  simp [Targets.channelIds, List.filterMap_eq_nil_iff, Option.isSome_iff_ne_none]

theorem mem_lookups_ids {ids : List Int64} :
    Call.channelsWithIds ids ∈ lookups t ↔ ids = t.channelIds ∧ t.channelIds ≠ [] := by
  simp only [lookups, ← channelIds_ne_nil_iff]
  rw [← Targets.channelIds]
  by_cases hids : t.channelIds = [] <;> by_cases hgroups : t.groups = [] <;> simp [hids, hgroups]

theorem mem_lookups_groups {groups : List String} :
    Call.channelsInGroups groups ∈ lookups t ↔ groups = t.groups ∧ t.groups ≠ [] := by
  simp only [lookups, ← channelIds_ne_nil_iff]
  rw [← Targets.channelIds]
  by_cases hids : t.channelIds = [] <;> by_cases hgroups : t.groups = [] <;> simp [hids, hgroups]

/-- A resolution makes the lookups that the targets need at the same time, and goes on when both have been answered. -/
theorem resolve_lookups (t : Targets) :
    (lookups t = [] ∧ resolve t = .done (settle (.ok []) (.ok []))) ∨
    (∃ groups, lookups t = [.channelsInGroups groups] ∧
      resolve t = .gather [.channelsInGroups groups] fun (rs : Call.Reply _ × Unit) => .done (settle (.ok []) rs.1)) ∨
    (∃ ids, lookups t = [.channelsWithIds ids] ∧
      resolve t = .gather [.channelsWithIds ids] fun (rs : Call.Reply _ × Unit) => .done (settle rs.1 (.ok []))) ∨
    ∃ ids groups, lookups t = [.channelsWithIds ids, .channelsInGroups groups] ∧
      resolve t = .gather [.channelsWithIds ids, .channelsInGroups groups]
        fun (rs : Call.Reply _ × Call.Reply _ × Unit) => .done (settle rs.1 rs.2.1) := by
  unfold resolve lookups
  simp only [← channelIds_ne_nil_iff]
  rw [← Targets.channelIds]
  cases t.channelIds with
  | nil =>
    cases t.groups with
    | nil => exact .inl ⟨by simp, rfl⟩
    | cons g gs => exact .inr (.inl ⟨_, by simp, rfl⟩)
  | cons i is =>
    cases t.groups with
    | nil => exact .inr (.inr (.inl ⟨_, by simp, rfl⟩))
    | cons g gs => exact .inr (.inr (.inr ⟨_, _, by simp, rfl⟩))

/-- **All that a resolution can do**: it makes the lookups that the targets need, in any order, and settles what they
brought. -/
theorem resolve_unfolds_iff :
    (resolve t).Unfolds es a ↔
      (es.map Exchange.call).Perm (lookups t) ∧ a = settle (Side.ids.brought es) (Side.groups.brought es) := by
  rcases resolve_lookups t with ⟨hl, hr⟩ | ⟨gs, hl, hr⟩ | ⟨is, hl, hr⟩ | ⟨is, gs, hl, hr⟩ <;> rw [hl, hr]
  · rw [Plan.unfolds_done_iff, List.perm_nil, List.map_eq_nil_iff]
    refine and_congr_right fun hes => ?_
    rw [hes]
    exact Iff.rfl
  all_goals
    refine Plan.unfolds_gather_amounts_iff
      (g := fun es => settle (Side.ids.brought es) (Side.groups.brought es)) fun rs es hperm => ?_
  · rw [List.perm_singleton.mp hperm]
    rfl
  · rw [List.perm_singleton.mp hperm]
    rfl
  · rcases List.perm_pair.mp hperm with h | h <;> rw [h] <;> rfl

/-! ## What a resolution reports -/

theorem Side.brought_cases (side : Side) (es : List Exchange) :
    (side.brought es = .ok [] ∧ ∀ x ∈ es, side.reply? x = none) ∨ ∃ x ∈ es, side.reply? x = some (side.brought es) := by
  unfold brought
  cases hr : es.findSome? side.reply? with
  | none => exact .inl ⟨rfl, List.findSome?_eq_none_iff.mp hr⟩
  | some r => exact .inr (List.exists_of_findSome?_eq_some hr)

section Needed

variable (hes : (es.map Exchange.call).Perm (lookups t))

include hes

/-- The exchanges of the lookups that targets need are at most one of each side. -/
theorem exchanges_cases : es = [] ∨ (∃ groups r, es = [⟨.channelsInGroups groups, r⟩]) ∨
    (∃ ids r, es = [⟨.channelsWithIds ids, r⟩]) ∨
    ∃ ids groups r r', es = [⟨.channelsWithIds ids, r⟩, ⟨.channelsInGroups groups, r'⟩] ∨
      es = [⟨.channelsInGroups groups, r'⟩, ⟨.channelsWithIds ids, r⟩] := by
  rcases resolve_lookups t with ⟨hl, -⟩ | ⟨gs, hl, -⟩ | ⟨is, hl, -⟩ | ⟨is, gs, hl, -⟩ <;> rw [hl] at hes
  · exact .inl (List.map_eq_nil_iff.mp hes.eq_nil)
  · obtain ⟨rs, hperm⟩ := Call.exists_exchanges_perm hes
    exact .inr (.inl ⟨gs, rs.1, List.perm_singleton.mp hperm⟩)
  · obtain ⟨rs, hperm⟩ := Call.exists_exchanges_perm hes
    exact .inr (.inr (.inl ⟨is, rs.1, List.perm_singleton.mp hperm⟩))
  · obtain ⟨rs, hperm⟩ := Call.exists_exchanges_perm hes
    exact .inr (.inr (.inr ⟨is, gs, rs.1, rs.2.1, List.perm_pair.mp hperm⟩))

/-- A side brings what the one lookup of it was answered. -/
theorem Side.brought_of_mem {side : Side} {x : Exchange} {r : Except String (List Channel)} (hx : x ∈ es)
    (hr : side.reply? x = some r) : side.brought es = r := by
  rcases exchanges_cases hes with rfl | ⟨gs, q, rfl⟩ | ⟨is, q, rfl⟩ | ⟨is, gs, q, q', rfl | rfl⟩
  · cases hx
  · obtain rfl := List.mem_singleton.mp hx
    cases side <;> cases hr
    rfl
  · obtain rfl := List.mem_singleton.mp hx
    cases side <;> cases hr
    rfl
  all_goals
    rcases List.mem_pair.mp hx with rfl | rfl <;> cases side <;> cases hr
    all_goals rfl

/-- The ids have not been looked up as there are none, or they bring what the lookup of them was answered. -/
theorem ids_brought_cases : (t.channelIds = [] ∧ Side.ids.brought es = .ok []) ∨
    ⟨.channelsWithIds t.channelIds, Side.ids.brought es⟩ ∈ es := by
  rcases Side.ids.brought_cases es with ⟨hok, hnone⟩ | ⟨⟨c, r⟩, hx, hr⟩
  · refine .inl ⟨?_, hok⟩
    by_contra hne
    obtain ⟨⟨c, r⟩, hx, rfl⟩ := List.mem_map.mp (hes.symm.subset (mem_lookups_ids.mpr ⟨rfl, hne⟩))
    cases hnone _ hx
  · cases c <;> cases hr
    obtain ⟨rfl, -⟩ := mem_lookups_ids.mp (hes.subset (List.mem_map_of_mem hx))
    exact .inr hx

/-- The groups have not been looked up as there are none, or they bring what the lookup of them was answered. -/
theorem groups_brought_cases : (t.groups = [] ∧ Side.groups.brought es = .ok []) ∨
    ⟨.channelsInGroups t.groups, Side.groups.brought es⟩ ∈ es := by
  rcases Side.groups.brought_cases es with ⟨hok, hnone⟩ | ⟨⟨c, r⟩, hx, hr⟩
  · refine .inl ⟨?_, hok⟩
    by_contra hne
    obtain ⟨⟨c, r⟩, hx, rfl⟩ := List.mem_map.mp (hes.symm.subset (mem_lookups_groups.mpr ⟨rfl, hne⟩))
    cases hnone _ hx
  · cases c <;> cases hr
    obtain ⟨rfl, -⟩ := mem_lookups_groups.mp (hes.subset (List.mem_map_of_mem hx))
    exact .inr hx

theorem Side.brought_of_perm (side : Side) {es' : List Exchange} (h : es.Perm es') :
    side.brought es = side.brought es' := by
  rcases side.brought_cases es' with ⟨hok, hnone⟩ | ⟨x, hx, hr⟩
  · rcases side.brought_cases es with ⟨hok', -⟩ | ⟨x, hx, hr⟩
    · rw [hok, hok']
    · rw [hnone x (h.subset hx)] at hr
      cases hr
  · exact Side.brought_of_mem hes (h.symm.subset hx) hr

end Needed

/-- The order in which the lookups are answered does not matter for the result. -/
theorem resolve_unfolds_perm {es' : List Exchange} {b : Except RelayError (Keyed Channel)}
    (h : (resolve t).Unfolds es a) (h' : (resolve t).Unfolds es' b) (hperm : es.Perm es') : a = b := by
  obtain ⟨hes, rfl⟩ := resolve_unfolds_iff.mp h
  obtain ⟨-, rfl⟩ := resolve_unfolds_iff.mp h'
  rw [Side.ids.brought_of_perm hes hperm, Side.groups.brought_of_perm hes hperm]

/-- A side brings channels unless a lookup of it fails. -/
theorem Side.brought_eq_ok {side : Side} (h : ∀ x ∈ es, ∀ e, side.reply? x ≠ some (.error e)) :
    ∃ cs, side.brought es = .ok cs := by
  rcases side.brought_cases es with ⟨hok, -⟩ | ⟨x, hx, hr⟩
  · exact ⟨[], hok⟩
  · cases hb : side.brought es with
    | error e =>
      rw [hb] at hr
      exact absurd hr (h x hx e)
    | ok cs => exact ⟨cs, rfl⟩

/-- What a resolution makes of what was looked up: a failed lookup by ids is reported, else a failed lookup by groups,
and else there are channels. -/
structure Reports (es : List Exchange) (a : Except RelayError (Keyed Channel)) : Prop where
  byId : ∀ ids e, ⟨.channelsWithIds ids, .error e⟩ ∈ es → a = .error (.unresolved ("lookup by id: " ++ e))
  byGroup : (∀ ids e, ⟨.channelsWithIds ids, .error e⟩ ∉ es) →
    ∀ groups e, ⟨.channelsInGroups groups, .error e⟩ ∈ es → a = .error (.unresolved ("lookup by group: " ++ e))
  neither : (∀ x ∈ es, ∀ e, x.reply ≠ .error e) → ∃ m, a = .ok m

theorem reports_of_unfolds (h : (resolve t).Unfolds es a) : Reports es a := by
  obtain ⟨hes, rfl⟩ := resolve_unfolds_iff.mp h
  refine ⟨fun ids e hx => ?_, fun hids groups e hx => ?_, fun hok => ?_⟩
  · rw [Side.brought_of_mem hes hx rfl]
    rfl
  · have hok : ∀ x ∈ es, ∀ e, Side.ids.reply? x ≠ some (.error e) := by
      rintro ⟨c, r⟩ hx e hr
      cases c <;> cases hr
      exact hids _ e hx
    obtain ⟨cs, hcs⟩ := Side.brought_eq_ok hok
    rw [hcs, Side.brought_of_mem hes hx rfl]
    rfl
  · have hok' : ∀ side : Side, ∀ x ∈ es, ∀ e, side.reply? x ≠ some (.error e) := by
      rintro side ⟨c, r⟩ hx e hr
      cases side <;> cases c <;> cases hr
      all_goals exact hok _ hx e rfl
    obtain ⟨cs, hcs⟩ := Side.brought_eq_ok (hok' .ids)
    obtain ⟨ds, hds⟩ := Side.brought_eq_ok (hok' .groups)
    rw [hcs, hds]
    exact ⟨_, rfl⟩

end Resolution

end Courier
