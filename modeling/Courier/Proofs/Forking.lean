import Courier.Proofs.Unfolding
import Mathlib.Data.List.Perm.Subperm
import Mathlib.Logic.Relation

/-!
# Calls that start, wait and are answered

`Plan.Unfolds` says in which order calls are answered. Here a call that a plan waits for is first started and answered
some time later, and in between it may wait for others, as a guard says (`Fork.Step`). What holds of every run is
carried by `Fork.Sound`, which each step keeps: what has been answered has been started, and the rest of the plan does
what is left of it. For a plan that makes its calls at the same time and then ends (`Plan.Joins`) it gives that the
calls are each started and answered once (`Fork.Sound.ended`), that no reply hinders another call
(`Fork.Sound.can_start`, `Fork.Sound.can_answer`), and that every run comes to its end though calls wait until all have
been started (`Fork.Sound.can_step`, `Fork.Sound.length_le`).
-/

namespace Courier

variable {α : Type}

namespace Plan

/-- The calls that a plan waits for. -/
def awaited : Plan α → List Call
  | done _ => []
  | ask c _ => [c]
  | gather [] k => (k ()).awaited
  | gather (c :: cs) _ => c :: cs

/-- A plan that makes calls at the same time, if any, and then ends. -/
def Joins : Plan α → Prop
  | done _ => True
  | ask _ _ => False
  | gather _ k => ∀ rs, ∃ a, k rs = done a

theorem awaited_of_result? {p : Plan α} {a : α} (h : p.result? = some a) : p.awaited = [] := by
  induction p with
  | done b => rfl
  | ask c k => cases h
  | gather cs k ih =>
    cases cs with
    | nil => exact ih () h
    | cons c cs => cases h

theorem exists_result? {p : Plan α} (h : p.awaited = []) : ∃ a, p.result? = some a := by
  induction p with
  | done b => exact ⟨b, rfl⟩
  | ask c k => cases h
  | gather cs k ih =>
    cases cs with
    | nil => exact ih () h
    | cons c cs => cases h

theorem Joins.awaited_gather {cs : List Call} {k : Call.Replies cs → Plan α} (h : (gather cs k).Joins) :
    (gather cs k).awaited = cs := by
  cases cs with
  | nil =>
    obtain ⟨a, ha⟩ := h ()
    rw [awaited, ha]
    rfl
  | cons c cs => rfl

end Plan

theorem Call.exists_pick_of_mem : ∀ {cs : List Call} {c : Call}, c ∈ cs →
    ∃ j others join, pick cs j = some ⟨c, others, join⟩
  | d :: cs, c, h => by
    rcases List.mem_cons.mp h with rfl | h
    · exact ⟨0, _, _, rfl⟩
    · obtain ⟨j, others, join, hpick⟩ := exists_pick_of_mem h
      refine ⟨j + 1, d :: others, fun r rs => (rs.1, join r rs.2), ?_⟩
      simp only [pick, hpick, Option.map_some]

namespace Plan

/-- An answer takes one call away from those that a joining plan waits for. -/
theorem Joins.next? {p : Plan α} (hp : p.Joins) {j : Nat} {c : Call} {k : c.Reply → Plan α}
    (h : p.next? j = some ⟨c, k⟩) (r : c.Reply) : (k r).Joins ∧ p.awaited.Perm (c :: (k r).awaited) := by
  cases p with
  | done a => cases h
  | ask d k' => exact hp.elim
  | gather cs k' =>
    cases cs with
    | nil =>
      obtain ⟨a, ha⟩ := hp ()
      rw [Plan.next?, ha] at h
      cases h
    | cons d cs =>
      obtain ⟨⟨c, others, join⟩, hpick, he⟩ := Option.map_eq_some_iff.mp h
      cases he
      have hjoins : (gather others fun rs => k' (join r rs)).Joins := fun rs => hp _
      refine ⟨hjoins, ?_⟩
      rw [hjoins.awaited_gather]
      exact Call.perm_of_pick hpick

/-- Each call that a plan waits for can be answered. -/
theorem exists_next? {p : Plan α} {c : Call} (h : c ∈ p.awaited) : ∃ j k, p.next? j = some ⟨c, k⟩ := by
  induction p with
  | done a => cases h
  | ask d k =>
    obtain rfl := List.mem_singleton.mp h
    exact ⟨0, k, rfl⟩
  | gather cs k ih =>
    cases cs with
    | nil => exact ih () h
    | cons d cs =>
      have hmem : c ∈ d :: cs := h
      obtain ⟨j, others, join, hpick⟩ := Call.exists_pick_of_mem hmem
      refine ⟨j, fun r => gather others fun rs => k (join r rs), ?_⟩
      simp only [next?, hpick, Option.map_some]

end Plan

/-! ## Runs -/

/-- What happens to a call. -/
inductive Happening
  | started (c : Call)
  | answered (x : Exchange)

/-- What a plan does with its calls in between. -/
structure Fork (α : Type) where
  /-- What is left of the plan. -/
  plan : Plan α
  /-- The calls that have been started and not yet answered. -/
  started : List Call
  /-- What has happened so far. -/
  log : List Happening

namespace Fork

/-- The calls that have been started. -/
def starts (log : List Happening) : List Call :=
  log.filterMap fun | .started c => some c | .answered _ => none

/-- The calls that have been answered, with their replies. -/
def answers (log : List Happening) : List Exchange :=
  log.filterMap fun | .started _ => none | .answered x => some x

/-- A plan of which nothing has been started. -/
def of (p : Plan α) : Fork α := ⟨p, [], []⟩

/-- A call that the plan waits for is started, or a started one is answered. What has happened so far tells whether a
call may be answered now; the reply is any one. -/
inductive Step (may : List Happening → Call → Prop) : Fork α → Fork α → Prop
  | start {p : Plan α} {started : List Call} {log : List Happening} {c : Call}
    (h : (c :: started).Subperm p.awaited) : Step may ⟨p, started, log⟩ ⟨p, c :: started, log ++ [.started c]⟩
  | answer {p : Plan α} {started rest : List Call} {log : List Happening} {j : Nat} {c : Call} {k : c.Reply → Plan α}
    (r : c.Reply) (h : p.next? j = some ⟨c, k⟩) (hs : started.Perm (c :: rest)) (hmay : may log c) :
    Step may ⟨p, started, log⟩ ⟨k r, rest, log ++ [.answered ⟨c, r⟩]⟩

/-- What a joining plan keeps from step to step. -/
structure Sound (p : Plan α) (f : Fork α) : Prop where
  joins : f.plan.Joins
  /-- The answered calls and those that are awaited are the calls of the plan. -/
  calls : ((answers f.log).map Exchange.call ++ f.plan.awaited).Perm p.awaited
  /-- The calls that have been started are the answered ones and those in between. -/
  begun : (starts f.log).Perm ((answers f.log).map Exchange.call ++ f.started)
  inBetween : f.started.Subperm f.plan.awaited
  unfolds : ∀ es a, f.plan.Unfolds es a → p.Unfolds (answers f.log ++ es) a
  length : f.log.length = (starts f.log).length + (answers f.log).length

variable {may : List Happening → Call → Prop} {p : Plan α} {f g : Fork α}

theorem of_sound (hp : p.Joins) : Sound p (of p) :=
  ⟨hp, .refl _, .refl _, List.nil_subperm, fun _ _ h => h, rfl⟩

theorem starts_append (xs ys : List Happening) : starts (xs ++ ys) = starts xs ++ starts ys := List.filterMap_append

theorem answers_append (xs ys : List Happening) : answers (xs ++ ys) = answers xs ++ answers ys :=
  List.filterMap_append

theorem Sound.step (hf : Sound p f) (h : Step may f g) : Sound p g := by
  obtain ⟨joins, calls, begun, inBetween, unfolds, length⟩ := hf
  cases h with
  | @start q started log c h =>
    have hstarts : starts (log ++ [.started c]) = starts log ++ [c] := starts_append _ _
    have hanswers : answers (log ++ [.started c]) = answers log := by
      rw [answers_append]
      exact List.append_nil _
    refine ⟨joins, by rwa [hanswers], ?_, h, by rwa [hanswers], ?_⟩
    · rw [hstarts, hanswers]
      exact (begun.append_right [c]).trans (by
        rw [List.append_assoc]
        exact (List.perm_append_singleton c started).append_left _)
    · rw [hstarts, hanswers, List.length_append, List.length_append]
      simp only [List.length_cons, List.length_nil]
      dsimp only at length
      omega
  | @answer q started rest log j c k r h hs hmay =>
    have hstarts : starts (log ++ [.answered ⟨c, r⟩]) = starts log := by
      rw [starts_append]
      exact List.append_nil _
    have hanswers : answers (log ++ [.answered ⟨c, r⟩]) = answers log ++ [⟨c, r⟩] := answers_append _ _
    obtain ⟨hjoins, hawaited⟩ := joins.next? h r
    have hmove : ∀ ds : List Call, ((answers log ++ [Exchange.mk c r]).map Exchange.call ++ ds).Perm
        ((answers log).map Exchange.call ++ c :: ds) := by
      intro ds
      rw [List.map_append, List.append_assoc]
      exact .refl _
    refine ⟨hjoins, ?_, ?_, ?_, fun es a hrest => ?_, ?_⟩
    · rw [hanswers]
      exact (hmove _).trans ((hawaited.symm.append_left _).trans calls)
    · rw [hstarts, hanswers]
      exact begun.trans ((hs.append_left _).trans (hmove _).symm)
    · have hcons : (c :: rest).Subperm (c :: (k r).awaited) := hs.symm.subperm.trans (inBetween.trans hawaited.subperm)
      exact (List.subperm_cons c).mp hcons
    · rw [hanswers, List.append_assoc]
      exact unfolds (⟨c, r⟩ :: es) a (.answered h hrest)
    · rw [hstarts, hanswers, List.length_append, List.length_append]
      simp only [List.length_cons, List.length_nil]
      dsimp only at length
      omega

/-- What every run of a joining plan keeps. -/
theorem Sound.of_reaches (hp : p.Joins) (h : Relation.ReflTransGen (Step may) (of p) f) : Sound p f := by
  induction h with
  | refl => exact of_sound hp
  | tail _ hstep ih => exact ih.step hstep

/-! ## What is known at any time -/

namespace Sound

variable (hf : Sound p f)

include hf

theorem starts_subperm : (starts f.log).Subperm p.awaited :=
  hf.begun.subperm.trans (((List.subperm_append_left _).mpr hf.inBetween).trans hf.calls.subperm)

theorem answers_subperm : ((answers f.log).map Exchange.call).Subperm (starts f.log) :=
  (List.sublist_append_left _ _).subperm.trans hf.begun.symm.subperm

/-- A plan that has ended has started and answered each of its calls once. -/
theorem ended {a : α} (h : f.plan.result? = some a) :
    (starts f.log).Perm p.awaited ∧ ((answers f.log).map Exchange.call).Perm p.awaited ∧
      p.Unfolds (answers f.log) a := by
  have hcalls := hf.calls
  rw [Plan.awaited_of_result? h, List.append_nil] at hcalls
  have hnone : f.started = [] := by
    have hsub := hf.inBetween
    rw [Plan.awaited_of_result? h] at hsub
    exact List.subperm_nil.mp hsub
  have hbegun := hf.begun
  rw [hnone, List.append_nil] at hbegun
  have hunfolds := hf.unfolds [] a (.ended h)
  rw [List.append_nil] at hunfolds
  exact ⟨hbegun.trans hcalls, hcalls, hunfolds⟩

/-- A call that has not been started can be started, whatever has been answered. -/
theorem can_start {c : Call} (h : (c :: starts f.log).Subperm p.awaited) :
    ∃ g, Step may f g ∧ g.log = f.log ++ [.started c] := by
  refine ⟨_, .start ?_, rfl⟩
  have hsplit : ((answers f.log).map Exchange.call ++ c :: f.started).Perm (c :: starts f.log) :=
    List.perm_middle.trans (hf.begun.symm.cons c)
  exact (List.subperm_append_left _).mp (hsplit.subperm.trans (h.trans hf.calls.symm.subperm))

/-- A call that has been started and not answered can be answered in any way as soon as it may, whatever the others were
answered. -/
theorem can_answer {x : Exchange} (h : (x.call :: (answers f.log).map Exchange.call).Subperm (starts f.log))
    (hmay : may f.log x.call) : ∃ g, Step may f g ∧ g.log = f.log ++ [.answered x] := by
  have hmem : x.call ∈ f.started := by
    have hsplit : ((answers f.log).map Exchange.call ++ [x.call]).Subperm
        ((answers f.log).map Exchange.call ++ f.started) :=
      (List.perm_append_singleton _ _).subperm.trans (h.trans hf.begun.subperm)
    exact List.singleton_subperm_iff.mp ((List.subperm_append_left _).mp hsplit)
  obtain ⟨xs, ys, hstarted⟩ := List.append_of_mem hmem
  obtain ⟨j, k, hnext⟩ := Plan.exists_next? (hf.inBetween.subset hmem)
  exact ⟨_, .answer x.reply hnext (hstarted ▸ List.perm_middle) hmay, rfl⟩

theorem length_le : f.log.length ≤ 2 * p.awaited.length := by
  have hstarts := hf.starts_subperm.length_le
  have hanswers := hf.answers_subperm.length_le
  rw [List.length_map] at hanswers
  have hlength := hf.length
  omega

/-- A plan that has not ended can go on, if calls may be answered as soon as all have been started. -/
theorem can_step (hmay : ∀ log c, (∀ d ∈ p.awaited, d ∈ starts log) → may log c) (h : f.plan.result? = none) :
    ∃ g, Step may f g := by
  obtain ⟨xs, hxs, hsub⟩ := hf.inBetween
  obtain ⟨rest, hrest⟩ := hsub.exists_perm_append
  have hawaited : f.plan.awaited.Perm (f.started ++ rest) := hrest.trans (hxs.append_right rest)
  cases rest with
  | cons c rest =>
    have hstart : (c :: f.started).Subperm f.plan.awaited :=
      ((List.sublist_append_left (c :: f.started) rest).subperm.trans List.perm_middle.symm.subperm).trans
        hawaited.symm.subperm
    exact ⟨_, .start hstart⟩
  | nil =>
    rw [List.append_nil] at hawaited
    cases hstarted : f.started with
    | nil =>
      rw [hstarted] at hawaited
      obtain ⟨a, ha⟩ := Plan.exists_result? hawaited.eq_nil
      rw [h] at ha
      cases ha
    | cons c cs =>
      -- all calls have been started, so any of them may be answered
      have hall : (starts f.log).Perm p.awaited :=
        hf.begun.trans ((hawaited.symm.append_left _).trans hf.calls)
      obtain ⟨j, k, hnext⟩ := Plan.exists_next? (hawaited.symm.subset (hstarted ▸ List.mem_cons_self))
      exact ⟨_, .answer (.error "") hnext (.of_eq hstarted) (hmay _ c fun d hd => hall.symm.subset hd)⟩

end Sound

/-- Each step adds one happening. -/
theorem Step.length (h : Step may f g) : g.log.length = f.log.length + 1 := by
  cases h <;> exact List.length_append

/-- Every run of a joining plan can go on to its end. -/
theorem Sound.exists_ended (hf : Sound p f) (hmay : ∀ log c, (∀ d ∈ p.awaited, d ∈ starts log) → may log c) :
    ∃ g a, Relation.ReflTransGen (Step may) f g ∧ g.plan.result? = some a := by
  induction hn : 2 * p.awaited.length - f.log.length using Nat.strongRecOn generalizing f with
  | ind n ih =>
    cases hresult : f.plan.result? with
    | some a => exact ⟨f, a, .refl, hresult⟩
    | none =>
      obtain ⟨g, hstep⟩ := hf.can_step hmay hresult
      have hg := hf.step hstep
      have hlength := hstep.length
      have hle := hg.length_le
      obtain ⟨e, a, hreach, he⟩ := ih _ (by omega) hg rfl
      exact ⟨e, a, .head hstep hreach, he⟩

end Fork

end Courier
