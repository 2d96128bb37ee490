import Courier.Proofs.Forking
import Courier.Proofs.Lookups

/-!
# Lookups side by side

A resolution starts the lookups that its targets need, each once, waits for both whatever they bring, and reports what
they brought in a fixed order of precedence (`Resolution.lookups_join`). The two do not depend on one another: a
resolution comes to its end though each of them waits until the other has been started (`Resolution.Meets`). This rests
on `Fork.Sound`, as a resolution is a plan that joins, and on `Resolution.resolve_unfolds_iff`.
-/

namespace Courier.Resolution

open Relation (ReflTransGen)

variable {t : Targets}

theorem joins_resolve (t : Targets) : (resolve t).Joins ∧ (resolve t).awaited = lookups t := by
  rcases resolve_lookups t with ⟨hl, hr⟩ | ⟨gs, hl, hr⟩ | ⟨is, hl, hr⟩ | ⟨is, gs, hl, hr⟩ <;> rw [hl, hr]
  · exact ⟨trivial, rfl⟩
  all_goals exact ⟨fun rs => ⟨_, rfl⟩, rfl⟩

theorem nodup_lookups (t : Targets) : (lookups t).Nodup := by
  rcases resolve_lookups t with ⟨hl, -⟩ | ⟨gs, hl, -⟩ | ⟨is, hl, -⟩ | ⟨is, gs, hl, -⟩ <;> rw [hl] <;> simp

/-- A lookup waits until all the lookups that the targets need have been started. -/
def Meets (t : Targets) (log : List Happening) (_ : Call) : Prop := ∀ d ∈ lookups t, d ∈ Fork.starts log

/-- **The lookups of a resolution are joined.** Whenever they are started, wait for one another and are answered: only
lookups that the targets need are started, each at most once, and none is answered before. One that has not been started
or answered can be, whatever the other brought. When the resolution returns, each needed lookup has been started and
answered once, and the result is that of the lookup by ids if it failed, else that of the lookup by groups if that
failed, the same for every order of the same replies. If lookups may be answered at the latest when all of them have
been started, every run comes to its end. -/
theorem lookups_join (t : Targets) (may : List Happening → Call → Prop) {f : Fork (Except RelayError (Keyed Channel))}
    (hf : ReflTransGen (Fork.Step may) (Fork.of (resolve t)) f) :
    ((lookups t).Nodup ∧ (Fork.starts f.log).Subperm (lookups t) ∧
      ((Fork.answers f.log).map Exchange.call).Subperm (Fork.starts f.log)) ∧
    (∀ c : Call, (c :: Fork.starts f.log).Subperm (lookups t) →
      ∃ g, Fork.Step may f g ∧ g.log = f.log ++ [.started c]) ∧
    (∀ x : Exchange, (x.call :: (Fork.answers f.log).map Exchange.call).Subperm (Fork.starts f.log) →
      may f.log x.call → ∃ g, Fork.Step may f g ∧ g.log = f.log ++ [.answered x]) ∧
    (∀ a, f.plan.result? = some a →
      (Fork.starts f.log).Perm (lookups t) ∧ ((Fork.answers f.log).map Exchange.call).Perm (lookups t) ∧
      Reports (Fork.answers f.log) a ∧
      ∀ (may' : List Happening → Call → Prop) (g : Fork (Except RelayError (Keyed Channel))) (b),
        ReflTransGen (Fork.Step may') (Fork.of (resolve t)) g → g.plan.result? = some b →
        (Fork.answers g.log).Perm (Fork.answers f.log) → b = a) ∧
    ((∀ log c, Meets t log c → may log c) →
      f.log.length ≤ 2 * (lookups t).length ∧ (∀ g, Fork.Step may f g → g.log.length = f.log.length + 1) ∧
      (f.plan.result? = none → ∃ g, Fork.Step may f g) ∧
      ∃ g a, ReflTransGen (Fork.Step may) f g ∧ g.plan.result? = some a) := by
  obtain ⟨hjoins, hawaited⟩ := joins_resolve t
  have hsound := Fork.Sound.of_reaches hjoins hf
  rw [← hawaited]
  refine ⟨⟨hawaited ▸ nodup_lookups t, hsound.starts_subperm, hsound.answers_subperm⟩, fun c => hsound.can_start,
    fun x => hsound.can_answer, fun a ha => ?_, fun hmay => ?_⟩
  · obtain ⟨hstarts, hanswers, hunfolds⟩ := hsound.ended ha
    refine ⟨hstarts, hanswers, reports_of_unfolds hunfolds, fun may' g b hg hb hperm => ?_⟩
    obtain ⟨-, -, hunfolds'⟩ := (Fork.Sound.of_reaches hjoins hg).ended hb
    exact resolve_unfolds_perm hunfolds' hunfolds hperm
  · have hall : ∀ log c, (∀ d ∈ (resolve t).awaited, d ∈ Fork.starts log) → may log c := by
      rw [hawaited]
      exact hmay
    exact ⟨hsound.length_le, fun g hstep => hstep.length, hsound.can_step hall, hsound.exists_ended hall⟩

/-- Targets with an id that comes twice and one that is the id of nothing. -/
def mixed : Targets := ⟨["7", "99999999999999999999", "7"], ["ops", "desk", "ops"]⟩

/-- The ids among the mixed targets, with the repetition. -/
def mixedIds : List Int64 := [7, 7]

/-- The groups among the mixed targets, with the repetition. -/
def mixedGroups : List String := ["ops", "desk", "ops"]

/-- The lookup by groups is started and fails first, the one by ids fails later, and each waits for the other. -/
theorem lookups_join_mixed : ∃ f a, ReflTransGen (Fork.Step (Meets mixed)) (Fork.of (resolve mixed)) f ∧
    f.plan.result? = some a ∧ a = .error (.unresolved "lookup by id: off") ∧
    (Fork.starts f.log).Perm [.channelsWithIds mixedIds, .channelsInGroups mixedGroups] := by
  have hlookups : lookups mixed = [.channelsWithIds mixedIds, .channelsInGroups mixedGroups] := rfl
  have hawaited := (joins_resolve mixed).2.trans hlookups
  have hmeets : ∀ log c, Meets mixed
      (.started (.channelsInGroups mixedGroups) :: .started (.channelsWithIds mixedIds) :: log) c := by
    intro log c d hd
    rw [hlookups] at hd
    rcases List.mem_pair.mp hd with rfl | rfl
    · exact List.mem_cons_of_mem _ List.mem_cons_self
    · exact List.mem_cons_self
  have hgroups : Fork.Step (Meets mixed) (Fork.of (resolve mixed))
      ⟨resolve mixed, [.channelsInGroups mixedGroups], [.started (.channelsInGroups mixedGroups)]⟩ :=
    .start (hawaited ▸ List.singleton_subperm_iff.mpr (List.mem_cons_of_mem _ List.mem_cons_self))
  have hids : Fork.Step (Meets mixed)
      ⟨resolve mixed, [.channelsInGroups mixedGroups], [.started (.channelsInGroups mixedGroups)]⟩
      ⟨resolve mixed, [.channelsWithIds mixedIds, .channelsInGroups mixedGroups],
        [.started (.channelsInGroups mixedGroups), .started (.channelsWithIds mixedIds)]⟩ :=
    .start (by rw [hawaited])
  have hstarted := (ReflTransGen.single hgroups).tail hids
  have hdown := hstarted.tail (.answer (j := 1) (.error "down") rfl (.swap _ _ _) (hmeets [] _))
  have hend := hdown.tail (.answer (j := 0) (.error "off") rfl (.refl _) (hmeets [_] _))
  obtain ⟨hstarts, -, hreports, -⟩ := (lookups_join mixed (Meets mixed) hend).2.2.2.1 _ rfl
  exact ⟨_, _, hend, rfl, hreports.byId mixedIds "off" (List.mem_cons_of_mem _ List.mem_cons_self), hstarts⟩

end Courier.Resolution
