import Courier.Plan

/-!
# Exchanges

An exchange is a call together with the reply that it got. `Plan.exchanges` lists the exchanges of carrying a plan out;
those of two plans one after another are the two lists in turn (`exchanges_bind`). `Plan.next?` opens a plan at one of
the calls that it waits for, so that plans can be carried on call by call among others; calls made at the same time may
then be answered in any order. Answering the first one again and again carries the plan out (`run_of_next?`,
`next?_induction`, `step_induction`). `Plan.Within` bounds the calls that a plan can make at all, whatever the replies,
and `Plan.Ends` the results that it can end with; both are kept by every answer (`Within.next?`, `Ends.next?`).
-/

namespace Courier

/-- A call and the reply that it got. -/
structure Exchange where
  call : Call
  reply : call.Reply

namespace Call

/-- One of several calls, the others, and how the replies are put together again. -/
def pick : (cs : List Call) → Nat → Option ((c : Call) × (others : List Call) × (c.Reply → Replies others → Replies cs))
  | [], _ => none
  | c :: cs, 0 => some ⟨c, cs, fun r rs => (r, rs)⟩
  | c :: cs, j + 1 => (pick cs j).map fun ⟨d, others, join⟩ => ⟨d, c :: others, fun r rs => (rs.1, join r rs.2)⟩

/-- The call that is picked and the others are the calls. -/
theorem perm_of_pick : ∀ {cs : List Call} {j : Nat} {c : Call} {others : List Call}
    {join : c.Reply → Replies others → Replies cs}, pick cs j = some ⟨c, others, join⟩ → cs.Perm (c :: others)
  | [], _, _, _, _, h => by cases h
  | _ :: _, 0, _, _, _, h => by
    cases h
    exact .refl _
  | d :: cs, j + 1, _, _, _, h => by
    obtain ⟨⟨c, others, join⟩, hpick, he⟩ := Option.map_eq_some_iff.mp h
    cases he
    exact ((perm_of_pick hpick).cons d).trans (.swap _ _ _)

theorem mem_of_pick {cs : List Call} {j : Nat} {c : Call} {others : List Call}
    {join : c.Reply → Replies others → Replies cs} (h : pick cs j = some ⟨c, others, join⟩) :
    c ∈ cs ∧ ∀ d ∈ others, d ∈ cs := by
  have hperm := perm_of_pick h
  exact ⟨hperm.symm.subset List.mem_cons_self, fun d hd => hperm.symm.subset (List.mem_cons_of_mem _ hd)⟩

end Call

namespace Plan

variable {α β σ : Type}

/-! ## Carrying a plan out at once -/

/-- The exchanges with a responder that is asked several calls in turn. -/
def exchangesOf (answer : Responder σ) : List Call → σ → List Exchange
  | [], _ => []
  | c :: cs, s => ⟨c, (answer c s).1⟩ :: exchangesOf answer cs (answer c s).2

/-- The exchanges of carrying a plan out. -/
def exchanges (answer : Responder σ) : Plan α → σ → List Exchange
  | done _, _ => []
  | ask c k, s => ⟨c, (answer c s).1⟩ :: (k (answer c s).1).exchanges answer (answer c s).2
  | gather cs k, s =>
    exchangesOf answer cs s ++ (k (answerAll answer cs s).1).exchanges answer (answerAll answer cs s).2

theorem exchanges_bind (answer : Responder σ) (p : Plan α) (f : α → Plan β) (s : σ) :
    (p.bind f).exchanges answer s =
      p.exchanges answer s ++ (f (p.run answer s).1).exchanges answer (p.run answer s).2 := by
  induction p generalizing s with
  | done a => rfl
  | ask c k ih => simp only [bind, exchanges, run, ih, List.cons_append]
  | gather cs k ih => simp only [bind, exchanges, run, ih, List.append_assoc]

theorem call_mem_of_mem_exchangesOf {answer : Responder σ} {x : Exchange} :
    ∀ {cs : List Call} {s : σ}, x ∈ exchangesOf answer cs s → x.call ∈ cs
  | [], _, h => by cases h
  | c :: cs, s, h => by
    rcases List.mem_cons.mp h with rfl | h
    · exact List.mem_cons_self
    · exact List.mem_cons_of_mem _ (call_mem_of_mem_exchangesOf h)

/-! ## Carrying a plan on call by call -/

/-- The result of a plan that waits for nothing. -/
def result? : Plan α → Option α
  | done a => some a
  | ask _ _ => none
  | gather [] k => (k ()).result?
  | gather (_ :: _) _ => none

/-- One of the calls that a plan waits for, and how the plan goes on with its reply. -/
def next? : Plan α → Nat → Option ((c : Call) × (c.Reply → Plan α))
  | done _, _ => none
  | ask c k, 0 => some ⟨c, k⟩
  | ask _ _, _ + 1 => none
  | gather [] k, j => (k ()).next? j
  | gather (c :: cs) k, j =>
    (Call.pick (c :: cs) j).map fun ⟨d, others, join⟩ => ⟨d, fun r => gather others fun rs => k (join r rs)⟩

/-- Answers one of the calls that a plan waits for; none when there is no such call. -/
def resume (answer : Responder σ) (p : Plan α) (j : Nat) (s : σ) : Option (Exchange × Plan α × σ) :=
  (p.next? j).map fun ⟨c, k⟩ => (⟨c, (answer c s).1⟩, k (answer c s).1, (answer c s).2)

/-! ## Carrying a plan on to its end -/

/-- A plan that waits for nothing has a result, and carrying it out brings that. -/
theorem run_of_next?_none {p : Plan α} (h : p.next? 0 = none) :
    ∃ a, p.result? = some a ∧ ∀ (σ : Type) (answer : Responder σ) (s : σ), p.run answer s = (a, s) := by
  induction p with
  | done a => exact ⟨a, rfl, fun _ _ _ => rfl⟩
  | ask c k => cases h
  | gather cs k ih =>
    cases cs with
    | nil => exact ih () h
    | cons c cs => cases h

theorem result?_of_next? {p : Plan α} {c : Call} {k : c.Reply → Plan α} (h : p.next? 0 = some ⟨c, k⟩) :
    p.result? = none := by
  induction p with
  | done a => cases h
  | ask c' k' => rfl
  | gather cs k' ih =>
    cases cs with
    | nil => exact ih () h
    | cons c' cs => rfl

/-- Carrying a plan out begins with the first call that it waits for. -/
theorem run_of_next? (answer : Responder σ) {p : Plan α} {c : Call} {k : c.Reply → Plan α}
    (h : p.next? 0 = some ⟨c, k⟩) (s : σ) : p.run answer s = (k (answer c s).1).run answer (answer c s).2 := by
  induction p with
  | done a => cases h
  | ask c' k' =>
    cases h
    rfl
  | gather cs k' ih =>
    cases cs with
    | nil => exact ih () h
    | cons c' cs =>
      cases h
      rfl

theorem run_bind_of_next? (answer : Responder σ) {p : Plan α} {c : Call} {k : c.Reply → Plan α}
    (h : p.next? 0 = some ⟨c, k⟩) (f : α → Plan β) (s : σ) :
    (p.bind f).run answer s = ((k (answer c s).1).bind f).run answer (answer c s).2 := by
  rw [run_bind, run_bind, run_of_next? answer h]

/-- What holds of a plan if it holds after every reply to the first call holds of all plans. -/
theorem next?_induction {motive : Plan α → Prop}
    (step : ∀ p, (∀ (c : Call) (k : c.Reply → Plan α), p.next? 0 = some ⟨c, k⟩ → ∀ r, motive (k r)) → motive p)
    (p : Plan α) : motive p := by
  refine step p ?_
  induction p with
  | done a =>
    intro c k h
    cases h
  | ask c k ih =>
    intro c' k' h r
    cases h
    exact step _ (ih r)
  | gather cs k ih =>
    induction cs with
    | nil => exact ih ()
    | cons c cs ihcs =>
      intro c' k' h r
      cases h
      exact step _ (ihcs _ fun rs => ih (r, rs))

/-- A plan waits for nothing, or goes on with the reply to the first call that it waits for. -/
theorem step_induction {motive : Plan α → Prop}
    (ended : ∀ (p : Plan α) (a : α), p.result? = some a →
      (∀ (σ : Type) (answer : Responder σ) (s : σ), p.run answer s = (a, s)) → motive p)
    (asked : ∀ (p : Plan α) (c : Call) (k : c.Reply → Plan α), p.next? 0 = some ⟨c, k⟩ → (∀ r, motive (k r)) → motive p)
    (p : Plan α) : motive p := by
  induction p using next?_induction with
  | step p ih =>
    cases hn : p.next? 0 with
    | none =>
      obtain ⟨a, ha, hrun⟩ := run_of_next?_none hn
      exact ended p a ha hrun
    | some ck => exact asked p ck.1 ck.2 hn (ih ck.1 ck.2 hn)

/-! ## Bounds on a plan -/

/-- Every call that a plan can make has some property. -/
def Within (P : Call → Prop) : Plan α → Prop
  | done _ => True
  | ask c k => P c ∧ ∀ r, (k r).Within P
  | gather cs k => (∀ c ∈ cs, P c) ∧ ∀ rs, (k rs).Within P

theorem Within.mono {P Q : Call → Prop} {p : Plan α} (hp : p.Within P) (h : ∀ c, P c → Q c) : p.Within Q := by
  induction p with
  | done a => exact trivial
  | ask c k ih => exact ⟨h c hp.1, fun r => ih r (hp.2 r)⟩
  | gather cs k ih => exact ⟨fun c hc => h c (hp.1 c hc), fun rs => ih rs (hp.2 rs)⟩

theorem Within.bind {P : Call → Prop} {p : Plan α} {f : α → Plan β} (hp : p.Within P) (hf : ∀ a, (f a).Within P) :
    (p.bind f).Within P := by
  induction p with
  | done a => exact hf a
  | ask c k ih => exact ⟨hp.1, fun r => ih r (hp.2 r)⟩
  | gather cs k ih => exact ⟨hp.1, fun rs => ih rs (hp.2 rs)⟩

theorem within_true (p : Plan α) : p.Within fun _ => True := by
  induction p with
  | done a => exact trivial
  | ask c k ih => exact ⟨trivial, ih⟩
  | gather cs k ih => exact ⟨fun _ _ => trivial, ih⟩

/-- What a plan makes of a reply stays within the bound, and so does the call that was answered. -/
theorem Within.next? {P : Call → Prop} : ∀ {p : Plan α} {j : Nat} {c : Call} {k : c.Reply → Plan α},
    p.Within P → p.next? j = some ⟨c, k⟩ → P c ∧ ∀ r, (k r).Within P
  | done _, _, _, _, _, h => by cases h
  | ask _ _, 0, _, _, hp, h => by cases h; exact hp
  | ask _ _, _ + 1, _, _, _, h => by cases h
  | gather [] k, _, _, _, hp, h => Within.next? (p := k ()) (hp.2 ()) h
  | gather (_ :: _) k, _, _, _, hp, h => by
    obtain ⟨⟨d, others, join⟩, hpick, he⟩ := Option.map_eq_some_iff.mp h
    cases he
    obtain ⟨hd, ho⟩ := Call.mem_of_pick hpick
    exact ⟨hp.1 _ hd, fun r => ⟨fun e he => hp.1 e (ho e he), fun rs => hp.2 _⟩⟩

/-- Every result that a plan can end with has some property. -/
def Ends (Q : α → Prop) : Plan α → Prop
  | done a => Q a
  | ask _ k => ∀ r, (k r).Ends Q
  | gather _ k => ∀ rs, (k rs).Ends Q

theorem ends_true (p : Plan α) : p.Ends fun _ => True := by
  induction p with
  | done a => exact trivial
  | ask c k ih => exact ih
  | gather cs k ih => exact ih

theorem Ends.bind {Q : α → Prop} {R : β → Prop} {p : Plan α} {f : α → Plan β} (hp : p.Ends Q)
    (hf : ∀ a, Q a → (f a).Ends R) : (p.bind f).Ends R := by
  induction p with
  | done a => exact hf a hp
  | ask c k ih => exact fun r => ih r (hp r)
  | gather cs k ih => exact fun rs => ih rs (hp rs)

/-- What follows a plan needs to stay within the bound only for the results that the plan can end with. -/
theorem Within.bind_of_ends {P : Call → Prop} {Q : α → Prop} {p : Plan α} {f : α → Plan β} (hp : p.Within P)
    (hq : p.Ends Q) (hf : ∀ a, Q a → (f a).Within P) : (p.bind f).Within P := by
  induction p with
  | done a => exact hf a hq
  | ask c k ih => exact ⟨hp.1, fun r => ih r (hp.2 r) (hq r)⟩
  | gather cs k ih => exact ⟨hp.1, fun rs => ih rs (hp.2 rs) (hq rs)⟩

/-- A plan can end with fewer and fewer results as its calls are answered. -/
theorem Ends.next? {Q : α → Prop} : ∀ {p : Plan α} {j : Nat} {c : Call} {k : c.Reply → Plan α},
    p.Ends Q → p.next? j = some ⟨c, k⟩ → ∀ r, (k r).Ends Q
  | done _, _, _, _, _, h => by cases h
  | ask _ _, 0, _, _, hp, h => by cases h; exact hp
  | ask _ _, _ + 1, _, _, _, h => by cases h
  | gather [] k, _, _, _, hp, h => Ends.next? (p := k ()) (hp ()) h
  | gather (_ :: _) k, _, _, _, hp, h => by
    obtain ⟨⟨d, others, join⟩, hpick, he⟩ := Option.map_eq_some_iff.mp h
    cases he
    exact fun r rs => hp _

theorem Ends.result? {Q : α → Prop} : ∀ {p : Plan α} {a : α}, p.Ends Q → p.result? = some a → Q a
  | done _, _, hp, h => by cases h; exact hp
  | ask _ _, _, _, h => by cases h
  | gather [] k, _, hp, h => Ends.result? (p := k ()) (hp ()) h
  | gather (_ :: _) _, _, _, h => by cases h

/-- Every exchange of carrying a plan out is about one of the calls that it can make. -/
theorem Within.exchanges {P : Call → Prop} {p : Plan α} (hp : p.Within P) (answer : Responder σ) (s : σ) :
    ∀ x ∈ p.exchanges answer s, P x.call := by
  induction p generalizing s with
  | done a => intro x hx; cases hx
  | ask c k ih =>
    intro x hx
    rcases List.mem_cons.mp hx with rfl | hx
    · exact hp.1
    · exact ih _ (hp.2 _) _ x hx
  | gather cs k ih =>
    intro x hx
    rcases List.mem_append.mp hx with hx | hx
    · exact hp.1 _ (call_mem_of_mem_exchangesOf hx)
    · exact ih _ (hp.2 _) _ x hx

/-- What a responder keeps when it answers several calls in turn. -/
theorem answerAll_keeps {P : Call → Prop} {I : σ → Prop} {answer : Responder σ}
    (h : ∀ c s, P c → I s → I (answer c s).2) :
    ∀ {cs : List Call} {s : σ}, (∀ c ∈ cs, P c) → I s → I (answerAll answer cs s).2
  | [], _, _, hs => hs
  | c :: cs, s, hcs, hs => by
    obtain ⟨hc, hrest⟩ := List.forall_mem_cons.mp hcs
    have hkept : I (answerAll answer cs (answer c s).2).2 := answerAll_keeps h hrest (h c s hc hs)
    exact hkept

/-- What a responder keeps when it answers the calls that a plan can make is kept by carrying the plan out. -/
theorem Within.keeps {P : Call → Prop} {I : σ → Prop} {answer : Responder σ} {p : Plan α} (hp : p.Within P)
    (h : ∀ c s, P c → I s → I (answer c s).2) {s : σ} (hs : I s) : I (p.run answer s).2 := by
  induction p generalizing s with
  | done a => exact hs
  | ask c k ih => exact ih _ (hp.2 _) (h c s hp.1 hs)
  | gather cs k ih => exact ih _ (hp.2 _) (answerAll_keeps h hp.1 hs)

theorem exchangesOf_of_answers {I : σ → Prop} {Q : Exchange → Prop} {answer : Responder σ}
    (h : ∀ c s, I s → Q ⟨c, (answer c s).1⟩ ∧ I (answer c s).2) :
    ∀ {cs : List Call} {s : σ}, I s → ∀ x ∈ exchangesOf answer cs s, Q x
  | [], _, _, x, hx => by cases hx
  | c :: cs, s, hs, x, hx => by
    obtain ⟨hq, hnext⟩ := h c s hs
    rcases List.mem_cons.mp hx with rfl | hx
    · exact hq
    · exact exchangesOf_of_answers h hnext x hx

/-- What holds of every answer that a responder gives holds of the exchanges with it. -/
theorem exchanges_of_answers {I : σ → Prop} {Q : Exchange → Prop} {answer : Responder σ}
    (h : ∀ c s, I s → Q ⟨c, (answer c s).1⟩ ∧ I (answer c s).2) (p : Plan α) {s : σ} (hs : I s) :
    ∀ x ∈ p.exchanges answer s, Q x := by
  induction p generalizing s with
  | done a => intro x hx; cases hx
  | ask c k ih =>
    obtain ⟨hq, hnext⟩ := h c s hs
    intro x hx
    rcases List.mem_cons.mp hx with rfl | hx
    · exact hq
    · exact ih _ hnext x hx
  | gather cs k ih =>
    have hnext : I (answerAll answer cs s).2 :=
      answerAll_keeps (P := fun _ => True) (fun c s _ hs => (h c s hs).2) (fun _ _ => trivial) hs
    intro x hx
    rcases List.mem_append.mp hx with hx | hx
    · exact exchangesOf_of_answers h hs x hx
    · exact ih _ hnext x hx

end Plan

end Courier
