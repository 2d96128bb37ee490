import Courier.Proofs.Unfolding

/-!
# Exchanges that happen

What a plan can go through when its calls may be answered in any way is said by `Plan.Unfolds`. Here the answers come
from a responder with a state. `Exchange.Happen answer es s t` says that exchanges happen one after another, from the
state `s` to the state `t`: each call is answered by the responder, or fails for whatever reason and has no effect. The
exchanges of carrying a plan out happen (`happen_run`), those of plans that follow one another happen in turn
(`happen_append_iff`), and what is kept whenever a call is answered is kept by all of them (`Happen.keeps`).
-/

namespace Courier.Exchange

variable {σ α : Type} {answer : Plan.Responder σ}

/-- Exchanges happen one after another and lead from a state to a state. -/
inductive Happen (answer : Plan.Responder σ) : List Exchange → σ → σ → Prop
  | rest (s : σ) : Happen answer [] s s
  | answered {c : Call} {es : List Exchange} {s t : σ} (later : Happen answer es (answer c s).2 t) :
    Happen answer (⟨c, (answer c s).1⟩ :: es) s t
  /-- A call that fails changes nothing. -/
  | failed {c : Call} {es : List Exchange} {s t : σ} (e : String) (later : Happen answer es s t) :
    Happen answer (⟨c, .error e⟩ :: es) s t

theorem happen_nil_iff {s t : σ} : Happen answer [] s t ↔ t = s := by
  constructor
  · intro h
    cases h
    rfl
  · rintro rfl
    exact .rest _

/-- The first of several exchanges is with the responder, or it is a failure. -/
theorem happen_cons_iff {c : Call} {r : c.Reply} {es : List Exchange} {s t : σ} :
    Happen answer (⟨c, r⟩ :: es) s t ↔
      (r = (answer c s).1 ∧ Happen answer es (answer c s).2 t) ∨ ((∃ e, r = .error e) ∧ Happen answer es s t) := by
  constructor
  · intro h
    cases h with
    | answered later => exact .inl ⟨rfl, later⟩
    | failed e later => exact .inr ⟨⟨e, rfl⟩, later⟩
  · rintro (⟨rfl, later⟩ | ⟨⟨e, rfl⟩, later⟩)
    · exact .answered later
    · exact .failed e later

theorem happen_append_iff {xs ys : List Exchange} {s t : σ} :
    Happen answer (xs ++ ys) s t ↔ ∃ u, Happen answer xs s u ∧ Happen answer ys u t := by
  induction xs generalizing s with
  | nil => simp [happen_nil_iff]
  | cons x xs ih =>
    obtain ⟨c, r⟩ := x
    simp only [List.cons_append, happen_cons_iff, ih]
    constructor
    · rintro (⟨hr, u, hxs, hys⟩ | ⟨hr, u, hxs, hys⟩)
      · exact ⟨u, .inl ⟨hr, hxs⟩, hys⟩
      · exact ⟨u, .inr ⟨hr, hxs⟩, hys⟩
    · rintro ⟨u, ⟨hr, hxs⟩ | ⟨hr, hxs⟩, hys⟩
      · exact .inl ⟨hr, u, hxs, hys⟩
      · exact .inr ⟨hr, u, hxs, hys⟩

/-- What is kept by the answered ones of some exchanges is kept by all of them. -/
theorem Happen.keeps {es : List Exchange} {s t : σ} (h : Happen answer es s t) {I : σ → Prop}
    (hI : ∀ x ∈ es, ∀ u, (answer x.call u).1 = x.reply → I u → I (answer x.call u).2) (hs : I s) : I t := by
  induction h with
  | rest s => exact hs
  | @answered c es s t later ih =>
    exact ih (fun x hx => hI x (List.mem_cons_of_mem _ hx)) (hI _ List.mem_cons_self _ rfl hs)
  | failed e later ih => exact ih (fun x hx => hI x (List.mem_cons_of_mem _ hx)) hs

/-- The exchanges with a responder that is asked several calls in turn happen. -/
theorem happen_exchangesOf (answer : Plan.Responder σ) :
    ∀ (cs : List Call) (s : σ), Happen answer (Plan.exchangesOf answer cs s) s (Plan.answerAll answer cs s).2
  | [], s => .rest s
  | c :: cs, s => .answered (happen_exchangesOf answer cs (answer c s).2)

/-- The exchanges of carrying a plan out happen, and lead to the state in which that leaves the responder. -/
theorem happen_run (answer : Plan.Responder σ) (p : Plan α) (s : σ) :
    Happen answer (p.exchanges answer s) s (p.run answer s).2 := by
  induction p generalizing s with
  | done a => exact .rest s
  | ask c k ih => exact .answered (ih _ _)
  | gather cs k ih => exact happen_append_iff.mpr ⟨_, happen_exchangesOf answer cs s, ih _ _⟩

end Courier.Exchange
