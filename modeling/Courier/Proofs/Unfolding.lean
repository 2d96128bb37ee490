import Courier.Proofs.Exchange

/-!
# Unfoldings

Calls that a plan makes at the same time may be answered in any order, and every call in any way. `Plan.Unfolds p es a`
says that a plan can go through the exchanges `es` in this order and then end with `a`: each time one of the calls that
it waits for is answered. Plans that follow one another unfold in turn (`unfolds_bind_iff`), and calls made at the same
time unfold in any order of their exchanges, each of them once (`unfolds_gather_iff`). Carrying a plan out by a
responder is one of its unfoldings (`unfolds_run`). What bounds the calls and the results of a plan bounds its
unfoldings (`Within.unfolds`, `Ends.unfolds`).
-/

namespace Courier

namespace Call

/-! ## Several calls with their replies -/

/-- Calls and their replies, in the order of the calls. -/
def exchanges : (cs : List Call) → Replies cs → List Exchange
  | [], _ => []
  | c :: cs, (rs : c.Reply × Replies cs) => ⟨c, rs.1⟩ :: exchanges cs rs.2

theorem map_call_exchanges : ∀ (cs : List Call) (rs : Replies cs), (exchanges cs rs).map Exchange.call = cs
  | [], _ => rfl
  | _ :: cs, rs => congrArg _ (map_call_exchanges cs rs.2)

theorem length_exchanges (cs : List Call) (rs : Replies cs) : (exchanges cs rs).length = cs.length := by
  rw [← List.length_map Exchange.call, map_call_exchanges]

/-- Putting a reply among the others puts its exchange among theirs. -/
theorem exchanges_join : ∀ {cs : List Call} {j : Nat} {c : Call} {others : List Call}
    {join : c.Reply → Replies others → Replies cs}, pick cs j = some ⟨c, others, join⟩ →
    ∀ (r : c.Reply) (rs : Replies others), (exchanges cs (join r rs)).Perm (⟨c, r⟩ :: exchanges others rs)
  | [], _, _, _, _, h => by cases h
  | _ :: _, 0, _, _, _, h => by
    cases h
    exact fun _ _ => .refl _
  | d :: cs, j + 1, _, _, _, h => by
    obtain ⟨⟨c, others, join⟩, hpick, he⟩ := Option.map_eq_some_iff.mp h
    cases he
    intro r rs
    exact ((exchanges_join hpick r rs.2).cons ⟨d, rs.1⟩).trans (.swap _ _ _)

/-- Each of several exchanges can be picked as the first one. -/
theorem exists_pick : ∀ {cs : List Call} {rs : Replies cs} {x : Exchange}, x ∈ exchanges cs rs →
    ∃ j others join rs', pick cs j = some ⟨x.call, others, join⟩ ∧ rs = join x.reply rs'
  | [], _, _, h => by cases h
  | c :: cs, rs, x, h => by
    rcases List.mem_cons.mp h with rfl | h
    · exact ⟨0, cs, fun r rs => (r, rs), rs.2, rfl, rfl⟩
    · obtain ⟨j, others, join, rs', hpick, hrs⟩ := exists_pick h
      refine ⟨j + 1, c :: others, fun r rs => (rs.1, join r rs.2), (rs.1, rs'), ?_, ?_⟩
      · simp only [pick, hpick, Option.map_some]
      · exact congrArg (Prod.mk rs.1) hrs

end Call

namespace Plan

variable {α β σ : Type}

/-- A plan can go through some exchanges, in this order, and end with a result. -/
inductive Unfolds : Plan α → List Exchange → α → Prop
  | ended {p : Plan α} {a : α} (h : p.result? = some a) : Unfolds p [] a
  /-- One of the calls that the plan waits for is answered. -/
  | answered {p : Plan α} {j : Nat} {c : Call} {k : c.Reply → Plan α} {r : c.Reply} {es : List Exchange} {a : α}
    (h : p.next? j = some ⟨c, k⟩) (rest : Unfolds (k r) es a) : Unfolds p (⟨c, r⟩ :: es) a

/-! ## The unfoldings of each kind of plan -/

theorem unfolds_done_iff {a b : α} {es : List Exchange} : (done a).Unfolds es b ↔ es = [] ∧ b = a := by
  constructor
  · intro h
    cases h with
    | ended h => exact ⟨rfl, (Option.some.inj h).symm⟩
    | answered h rest => cases h
  · rintro ⟨rfl, rfl⟩
    exact .ended rfl

theorem unfolds_ask_iff {c : Call} {k : c.Reply → Plan α} {es : List Exchange} {a : α} :
    (ask c k).Unfolds es a ↔ ∃ r ys, es = ⟨c, r⟩ :: ys ∧ (k r).Unfolds ys a := by
  constructor
  · intro h
    cases h with
    | ended h => cases h
    | @answered _ j _ _ _ _ _ h rest =>
      cases j with
      | succ j => cases h
      | zero =>
        cases h
        exact ⟨_, _, rfl, rest⟩
  · rintro ⟨r, ys, rfl, h⟩
    exact .answered (j := 0) rfl h

theorem unfolds_gather_nil {k : Call.Replies [] → Plan α} {es : List Exchange} {a : α} :
    (gather [] k).Unfolds es a ↔ (k ()).Unfolds es a := by
  constructor
  · intro h
    cases h with
    | ended h => exact .ended h
    | answered h rest => exact .answered h rest
  · intro h
    cases h with
    | ended h => exact .ended h
    | answered h rest => exact .answered h rest

/-- Whatever the order of the replies, each of several calls is answered once, and then the plan goes on. -/
theorem exchanges_of_unfolds_gather {p : Plan α} {es : List Exchange} {a : α} (h : p.Unfolds es a) :
    ∀ {cs : List Call} {k : Call.Replies cs → Plan α}, p = gather cs k →
      ∃ rs xs ys, es = xs ++ ys ∧ xs.Perm (Call.exchanges cs rs) ∧ (k rs).Unfolds ys a := by
  -- what is left of several calls after one answer is several calls again, so the induction is on the exchanges
  induction h with
  | @ended p a h =>
    rintro (_ | ⟨c, cs⟩) k rfl
    · exact ⟨(), [], [], rfl, .refl _, .ended h⟩
    · cases h
  | @answered p j c next r es a h rest ih =>
    rintro (_ | ⟨d, cs⟩) k rfl
    · exact ⟨(), [], _, rfl, .refl _, unfolds_gather_nil.mp (.answered h rest)⟩
    · obtain ⟨⟨c, others, join⟩, hpick, he⟩ := Option.map_eq_some_iff.mp h
      cases he
      obtain ⟨rs, xs, ys, rfl, hperm, hrest⟩ := ih rfl
      exact ⟨join r rs, ⟨c, r⟩ :: xs, ys, rfl,
        (hperm.cons _).trans (Call.exchanges_join hpick r rs).symm, hrest⟩

/-- Several calls can be answered in every order. -/
theorem unfolds_gather_of_perm {xs ys : List Exchange} {a : α} :
    ∀ {cs : List Call} {k : Call.Replies cs → Plan α} {rs : Call.Replies cs},
      xs.Perm (Call.exchanges cs rs) → (k rs).Unfolds ys a → (gather cs k).Unfolds (xs ++ ys) a := by
  -- each exchange is picked when its turn comes, which leaves a permutation of the others
  induction xs with
  | nil =>
    intro cs k rs hperm h
    cases cs with
    | nil => exact unfolds_gather_nil.mpr h
    | cons c cs => exact absurd hperm.length_eq (by simp [Call.exchanges])
  | cons x xs ih =>
    intro cs k rs hperm h
    obtain ⟨j, others, join, rs', hpick, rfl⟩ := Call.exists_pick (hperm.subset List.mem_cons_self)
    have hothers : xs.Perm (Call.exchanges others rs') :=
      (hperm.trans (Call.exchanges_join hpick _ _)).cons_inv
    cases cs with
    | nil => cases hpick
    | cons c cs =>
      refine .answered (j := j) (k := fun r => gather others fun rs => k (join r rs)) ?_ (ih hothers h)
      simp only [next?, hpick, Option.map_some]

/-- Calls made at the same time are each answered once, in any order, and then the plan goes on with their replies. -/
theorem unfolds_gather_iff {cs : List Call} {k : Call.Replies cs → Plan α} {es : List Exchange} {a : α} :
    (gather cs k).Unfolds es a ↔
      ∃ rs xs ys, es = xs ++ ys ∧ xs.Perm (Call.exchanges cs rs) ∧ (k rs).Unfolds ys a := by
  constructor
  · intro h
    exact exchanges_of_unfolds_gather h rfl
  · rintro ⟨rs, xs, ys, rfl, hperm, h⟩
    exact unfolds_gather_of_perm hperm h

/-- A plan that ends with what it makes of several replies. -/
theorem unfolds_gather_done_iff {cs : List Call} {f : Call.Replies cs → α} {es : List Exchange} {a : α} :
    (gather cs fun rs => done (f rs)).Unfolds es a ↔ ∃ rs, es.Perm (Call.exchanges cs rs) ∧ a = f rs := by
  simp only [unfolds_gather_iff, unfolds_done_iff]
  constructor
  · rintro ⟨rs, xs, _, rfl, hperm, rfl, ha⟩
    exact ⟨rs, by rwa [List.append_nil], ha⟩
  · rintro ⟨rs, hperm, ha⟩
    exact ⟨rs, es, [], (List.append_nil es).symm, hperm, rfl, ha⟩

/-- Plans that follow one another unfold in turn. -/
theorem unfolds_bind_iff {p : Plan α} {f : α → Plan β} {es : List Exchange} {b : β} :
    (p.bind f).Unfolds es b ↔ ∃ a xs ys, es = xs ++ ys ∧ p.Unfolds xs a ∧ (f a).Unfolds ys b := by
  induction p generalizing es with
  | done a =>
    simp only [bind, unfolds_done_iff]
    constructor
    · intro h
      exact ⟨a, [], es, rfl, ⟨rfl, rfl⟩, h⟩
    · rintro ⟨_, _, ys, rfl, ⟨rfl, rfl⟩, h⟩
      exact h
  | ask c k ih =>
    simp only [bind, unfolds_ask_iff, ih]
    constructor
    · rintro ⟨r, _, rfl, a, xs, ys, rfl, hxs, hys⟩
      exact ⟨a, ⟨c, r⟩ :: xs, ys, rfl, ⟨r, xs, rfl, hxs⟩, hys⟩
    · rintro ⟨a, _, ys, rfl, ⟨r, xs, rfl, hxs⟩, hys⟩
      exact ⟨r, xs ++ ys, rfl, a, xs, ys, rfl, hxs, hys⟩
  | gather cs k ih =>
    simp only [bind, unfolds_gather_iff, ih]
    constructor
    · rintro ⟨rs, xs, _, rfl, hperm, a, ys, zs, rfl, hys, hzs⟩
      exact ⟨a, xs ++ ys, zs, (List.append_assoc _ _ _).symm, ⟨rs, xs, ys, rfl, hperm, hys⟩, hzs⟩
    · rintro ⟨a, _, zs, rfl, ⟨rs, xs, ys, rfl, hperm, hys⟩, hzs⟩
      exact ⟨rs, xs, ys ++ zs, List.append_assoc _ _ _, hperm, a, ys, zs, rfl, hys, hzs⟩

/-! ## Carrying a plan out -/

theorem exchangesOf_eq (answer : Responder σ) :
    ∀ (cs : List Call) (s : σ), exchangesOf answer cs s = Call.exchanges cs (answerAll answer cs s).1
  | [], _ => rfl
  | c :: cs, s => congrArg _ (exchangesOf_eq answer cs (answer c s).2)

/-- Carrying a plan out is one of its unfoldings. -/
theorem unfolds_run (p : Plan α) (answer : Responder σ) (s : σ) :
    p.Unfolds (p.exchanges answer s) (p.run answer s).1 := by
  induction p generalizing s with
  | done a => exact .ended rfl
  | ask c k ih => exact unfolds_ask_iff.mpr ⟨_, _, rfl, ih _ _⟩
  | gather cs k ih =>
    exact unfolds_gather_iff.mpr ⟨_, _, _, rfl, .of_eq (exchangesOf_eq answer cs s), ih _ _⟩

/-- Every plan ends. -/
theorem exists_unfolds (p : Plan α) : ∃ es a, p.Unfolds es a :=
  ⟨_, _, p.unfolds_run (fun _ s => (.error "", s)) ()⟩

/-! ## Bounds on the unfoldings -/

/-- A plan makes only calls that it can make. -/
theorem Within.unfolds {P : Call → Prop} {p : Plan α} (hp : p.Within P) {es : List Exchange} {a : α}
    (h : p.Unfolds es a) : ∀ x ∈ es, P x.call := by
  induction h with
  | ended h =>
    intro x hx
    cases hx
  | answered h rest ih =>
    obtain ⟨hc, hk⟩ := hp.next? h
    exact List.forall_mem_cons.mpr ⟨hc, ih (hk _)⟩

/-- A plan ends only with results that it can end with. -/
theorem Ends.unfolds {Q : α → Prop} {p : Plan α} (hp : p.Ends Q) {es : List Exchange} {a : α}
    (h : p.Unfolds es a) : Q a := by
  induction h with
  | ended h => exact hp.result? h
  | answered h rest ih => exact ih (hp.next? h _)

/-! ## Answering calls in a given order -/

section Settling

variable {ι : Type}

/-- The exchanges of calls whose labels decide the replies. -/
def fated (fate : ι → (c : Call) → c.Reply) (labels : List ι) (cs : List Call) : List Exchange :=
  List.zipWith (fun i c => ⟨c, fate i c⟩) labels cs

/-- There are replies to calls as their labels have them. -/
theorem exists_fated (fate : ι → (c : Call) → c.Reply) :
    ∀ (labels : List ι) (cs : List Call), labels.length = cs.length →
      ∃ rs : Call.Replies cs, Call.exchanges cs rs = fated fate labels cs
  | [], [], _ => ⟨(), rfl⟩
  | i :: labels, c :: cs, h => by
    obtain ⟨rs, hrs⟩ := exists_fated fate labels cs (Nat.succ.inj h)
    exact ⟨(fate i c, rs), congrArg (List.cons (Exchange.mk c (fate i c))) hrs⟩

variable [DecidableEq ι]

/-- Answers calls that a plan waits for, in the order of their labels and each as its label has it: what has been
exchanged, and what is left of the plan. The labels of the calls that are still open are given in the order of the
calls. -/
def settle (fate : ι → (c : Call) → c.Reply) : (order labels : List ι) → Plan α → List (ι × Exchange) × Plan α
  | [], _, p => ([], p)
  | i :: order, labels, p =>
    match p.next? (labels.idxOf i) with
    | none => ([], p)
    | some ⟨c, k⟩ =>
      let (log, rest) := settle fate order (labels.erase i) (k (fate i c))
      ((i, ⟨c, fate i c⟩) :: log, rest)

/-- The call with a label can be picked, and the others keep their labels and replies. -/
theorem pick_fated {fate : ι → (c : Call) → c.Reply} {i : ι} :
    ∀ {labels : List ι} {cs : List Call} {rs : Call.Replies cs}, i ∈ labels → labels.length = cs.length →
      Call.exchanges cs rs = fated fate labels cs →
      ∃ c others join rs', Call.pick cs (labels.idxOf i) = some ⟨c, others, join⟩ ∧ rs = join (fate i c) rs' ∧
        (labels.erase i).length = others.length ∧ Call.exchanges others rs' = fated fate (labels.erase i) others ∧
        (labels.zip (Call.exchanges cs rs)).Perm
          ((i, ⟨c, fate i c⟩) :: (labels.erase i).zip (Call.exchanges others rs'))
  | l :: labels, c :: cs, rs, hi, hlength, hrs => by
    obtain ⟨r, rs⟩ := rs
    obtain ⟨hhead, htail⟩ : (⟨c, r⟩ : Exchange) = ⟨c, fate l c⟩ ∧ Call.exchanges cs rs = fated fate labels cs :=
      List.cons.inj hrs
    obtain rfl : r = fate l c := by
      injection hhead
    by_cases hl : l = i
    · subst hl
      exact ⟨c, cs, fun r rs => (r, rs), rs, by simp [Call.pick], rfl, by simpa using hlength, by simpa using htail,
        by simp [Call.exchanges]⟩
    · have hmem : i ∈ labels := (List.mem_cons.mp hi).resolve_left (Ne.symm hl)
      obtain ⟨d, others, join, rs', hpick, rfl, hlen, hex, hperm⟩ := pick_fated hmem (Nat.succ.inj hlength) htail
      refine ⟨d, c :: others, fun r rs => (rs.1, join r rs.2), (fate l c, rs'), ?_, rfl, ?_, ?_, ?_⟩
      · have hidx : (l :: labels).idxOf i = labels.idxOf i + 1 := by
          simp [List.idxOf_cons, beq_false_of_ne hl]
        simp only [hidx, Call.pick, hpick, Option.map_some]
      · simpa [hl] using hlen
      · simpa [hl, Call.exchanges, fated] using hex
      · simpa [hl, Call.exchanges] using (hperm.cons (l, ⟨c, fate l c⟩)).trans (.swap _ _ _)

/-- **Whatever the order in which calls are answered, what is left of the plan is the same**, and every call has been
answered once. -/
theorem settle_gather {fate : ι → (c : Call) → c.Reply} :
    ∀ {order labels : List ι} {cs : List Call} {rs : Call.Replies cs} {k : Call.Replies cs → Plan α},
      order.Perm labels → labels.length = cs.length → Call.exchanges cs rs = fated fate labels cs →
      ∃ log, settle fate order labels (gather cs k) = (log, gather [] fun _ => k rs) ∧ log.map Prod.fst = order ∧
        log.Perm (labels.zip (Call.exchanges cs rs))
  | [], labels, cs, rs, k, hperm, hlength, _ => by
    obtain rfl := hperm.nil_eq
    cases cs with
    | nil => exact ⟨[], rfl, rfl, .refl _⟩
    | cons c cs => cases hlength
  | i :: order, labels, cs, rs, k, hperm, hlength, hrs => by
    have hi : i ∈ labels := hperm.subset List.mem_cons_self
    obtain ⟨c, others, join, rs', hpick, rfl, hlen, hex, hzip⟩ := pick_fated hi hlength hrs
    have horder : order.Perm (labels.erase i) := (hperm.trans (List.perm_cons_erase hi)).cons_inv
    obtain ⟨log, hsettle, hfst, hlog⟩ := settle_gather (k := fun rs => k (join (fate i c) rs)) horder hlen hex
    refine ⟨(i, ⟨c, fate i c⟩) :: log, ?_, by rw [List.map_cons, hfst], (hlog.cons _).trans hzip.symm⟩
    have hnext : (gather cs k).next? (labels.idxOf i) =
        some ⟨c, fun r => gather others fun rs => k (join r rs)⟩ := by
      cases cs with
      | nil => cases hpick
      | cons d cs => simp only [next?, hpick, Option.map_some]
    simp only [settle, hnext, hsettle]

end Settling

end Plan

end Courier
