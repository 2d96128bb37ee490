import Courier.Proofs.Exchange

/-!
# Two plans side by side

Two plans that share a responder can be carried on in turns, call by call. `Plan.Braids` relates them to their results
and to the state in which they leave the responder: at every moment one of the calls that one of them waits for is
answered. Carrying out one plan and then the other is one way to do so (`braids_in_turn`).
-/

namespace Courier.Plan

variable {α β σ : Type} {answer : Responder σ}

/-- Two plans are carried on to their results, call by call and in any order. -/
inductive Braids (answer : Responder σ) : Plan α → Plan β → σ → α → β → σ → Prop
  | ended {p : Plan α} {q : Plan β} {a : α} {b : β} (ha : p.result? = some a) (hb : q.result? = some b) (s : σ) :
    Braids answer p q s a b s
  /-- One of the calls of the first plan is answered. -/
  | first {p : Plan α} {q : Plan β} {j : Nat} {c : Call} {k : c.Reply → Plan α} {s t : σ} {a : α} {b : β}
    (h : p.next? j = some ⟨c, k⟩) (rest : Braids answer (k (answer c s).1) q (answer c s).2 a b t) :
    Braids answer p q s a b t
  /-- One of the calls of the second plan is answered. -/
  | second {p : Plan α} {q : Plan β} {j : Nat} {c : Call} {k : c.Reply → Plan β} {s t : σ} {a : α} {b : β}
    (h : q.next? j = some ⟨c, k⟩) (rest : Braids answer p (k (answer c s).1) (answer c s).2 a b t) :
    Braids answer p q s a b t

/-- It does not matter which plan is called the first. -/
theorem Braids.symm {p : Plan α} {q : Plan β} {s t : σ} {a : α} {b : β} (h : Braids answer p q s a b t) :
    Braids answer q p s b a t := by
  induction h with
  | ended ha hb s => exact .ended hb ha s
  | first h rest ih => exact .second h ih
  | second h rest ih => exact .first h ih

/-- Carrying out a plan that waits for nothing brings its result. -/
theorem run_of_result? {p : Plan α} {a : α} (h : p.result? = some a) (s : σ) : p.run answer s = (a, s) := by
  induction p with
  | done b =>
    cases h
    rfl
  | ask c k => cases h
  | gather cs k ih =>
    cases cs with
    | nil => exact ih () h
    | cons c cs => cases h

/-- A plan that has a result can stand beside one that is carried out. -/
theorem braids_of_result? {p : Plan α} {a : α} (ha : p.result? = some a) (q : Plan β) :
    ∀ s, Braids answer p q s a (q.run answer s).1 (q.run answer s).2 := by
  induction q using step_induction with
  | ended q b hb hrun =>
    intro s
    rw [hrun]
    exact .ended ha hb s
  | asked q c k hn ih =>
    intro s
    rw [run_of_next? answer hn]
    exact .second hn (ih _ _)

/-- Two plans can be carried out in turn. -/
theorem braids_in_turn (answer : Responder σ) (p : Plan α) (q : Plan β) :
    ∀ s, Braids answer p q s (p.run answer s).1 (q.run answer (p.run answer s).2).1
      (q.run answer (p.run answer s).2).2 := by
  induction p using step_induction with
  | ended p a ha hrun =>
    intro s
    rw [hrun]
    exact braids_of_result? ha q s
  | asked p c k hn ih =>
    intro s
    rw [run_of_next? answer hn]
    exact .first hn (ih _ _)

end Courier.Plan
