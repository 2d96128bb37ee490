import Courier.Proofs.Desk

/-!
# A caller who is served alone

The desk splits a submission into the moves of a caller: a lookup at a time, and then a call of the hand-off at a time.
When nobody else comes and nothing fails, these moves bring the caller what carrying the submission out brings, and
leave the stores as it does (`served_alone`).
-/

namespace Courier

open Memory

namespace Desk

/-- What a caller who has stayed has got, if anything yet. -/
def outcome? (C : Desk) (id : Nat) : Option (Except RelayError Notification) :=
  match C.callers id with
  | some ⟨_, .refused e⟩ => some (.error e)
  | some ⟨_, .waiting n⟩ =>
    match C.traffic.jobs id with
    | some job => job.rest.result?.map fun a => a.map fun () => n
    | none => none
  | _ => none

theorem proceed_stores (sub : Submission) (id : Nat) (T : Traffic) (r : Request)
    (p : Plan (Except RelayError Notification)) : (proceed sub id T r p).1.stores = T.stores := by
  unfold proceed
  split
  · rfl
  · rfl
  · rcases T.begin_cases id _ with he | ⟨-, he⟩
    · rw [he]
    · rw [he]

/-- Some moves of a caller bring the caller what a plan brings, and leave the stores as it does. -/
def Brings (sub : Submission) (C : Desk) (id : Nat) (p : Plan (Except RelayError Notification)) : Prop :=
  ∃ acts : List Act,
    let D := C.run sub (acts.map (.act id))
    D.outcome? id = some (p.run Stores.answer C.traffic.stores).1 ∧
      D.traffic.stores = (p.run Stores.answer C.traffic.stores).2

variable {sub : Submission} {C : Desk} {id : Nat} {p q : Plan (Except RelayError Notification)}

theorem Brings.of_outcome? {a : Except RelayError Notification} (ha : C.outcome? id = some a)
    (hp : p.run Stores.answer C.traffic.stores = (a, C.traffic.stores)) : Brings sub C id p :=
  ⟨[], by simp [run, hp, ha], by simp [run, hp]⟩

theorem Brings.congr (h : Brings sub C id q)
    (hp : p.run Stores.answer C.traffic.stores = q.run Stores.answer C.traffic.stores) : Brings sub C id p := by
  unfold Brings at h ⊢
  rwa [hp]

theorem Brings.of_step {a : Act} (h : Brings sub (C.step sub (.act id a)) id q)
    (hp : p.run Stores.answer C.traffic.stores =
      q.run Stores.answer (C.step sub (.act id a)).traffic.stores) : Brings sub C id p := by
  obtain ⟨acts, houtcome, hstores⟩ := h
  rw [← hp] at houtcome hstores
  exact ⟨a :: acts, houtcome, hstores⟩

/-- A hand-off whose calls are all answered at once ends as it does when it is carried out. -/
theorem brings_handoff (n : Notification) (p : Plan (Except RelayError Unit)) :
    ∀ (C : Desk) (r : Request) (h : Handoff), C.callers id = some ⟨r, .waiting n⟩ → C.traffic.jobs id = some ⟨h, p⟩ →
      Brings sub C id (p.bind fun a => .done (a.map fun () => n)) := by
  induction p using Plan.next?_induction with
  | step p ih =>
    intro C r h hc hj
    cases hn : p.next? 0 with
    | none =>
      obtain ⟨a, ha, hrun⟩ := Plan.run_of_next?_none hn
      refine .of_outcome? (a := a.map fun () => n) ?_ ?_
      · simp [outcome?, hc, hj, ha]
      · rw [Plan.run_bind, hrun]
        rfl
    | some ck =>
      obtain ⟨c, k⟩ := ck
      have hadvance : C.traffic.advance id 0 none =
          { stores := (C.traffic.stores.answer c).2
            jobs := Function.update C.traffic.jobs id (some ⟨h, k (C.traffic.stores.answer c).1⟩)
            log := C.traffic.log ++ [⟨id, C.traffic.stores.now, ⟨c, (C.traffic.stores.answer c).1⟩⟩] } := by
        simp only [Traffic.advance, Plan.resume, hj, hn]
        rfl
      have hrest := ih c k hn (C.traffic.stores.answer c).1 (C.step sub (.act id (.advance 0 none))) r h
        (by simp [step, serve, hc]) (by simp [step, serve, hadvance])
      refine hrest.of_step ?_
      rw [Plan.run_bind_of_next? _ hn]
      simp [step, serve, hadvance]

/-- What a submission does once its preparation has ended. -/
def afterwards (sub : Submission) : Except RelayError Notification → Plan (Except RelayError Notification)
  | .error e => .done (.error e)
  | .ok n => (sub.handoff n).run.bind fun a => .done (a.map fun () => n)

theorem create_eq (sub : Submission) (r : Request) : sub.create r = (Submission.prepare r).bind (afterwards sub) := by
  unfold Submission.create
  congr 1
  funext a
  cases a with
  | error e => rfl
  | ok n =>
    show (sub.handoff n).run.bind _ = (sub.handoff n).run.bind _
    congr 1
    funext b
    rcases b with e | ⟨⟩ <;> rfl

/-- What follows a preparation that has ended ends as it does when it is carried out. -/
theorem brings_afterwards {T : Traffic} {callers : Nat → Option Caller} {r : Request}
    {a : Except RelayError Notification} (hfree : T.jobs id = none) (ha : p.result? = some a) :
    Brings sub ⟨(proceed sub id T r p).1, Function.update callers id (proceed sub id T r p).2⟩ id
      (afterwards sub a) := by
  cases a with
  | error e =>
    have hproceed : proceed sub id T r p = (T, some ⟨r, .refused e⟩) := by simp only [proceed, ha]
    rw [hproceed]
    exact .of_outcome? (a := .error e) (by simp [outcome?]) rfl
  | ok n =>
    have hproceed : proceed sub id T r p = (T.begin id (sub.handoff n), some ⟨r, .waiting n⟩) := by
      simp only [proceed, ha]
    have hjob : (T.begin id (sub.handoff n)).jobs id = some ⟨sub.handoff n, (sub.handoff n).run⟩ := by
      simp [Traffic.begin, hfree]
    rw [hproceed]
    exact brings_handoff n _ _ r _ (Function.update_self ..) hjob

/-- A preparation whose lookups are all answered at once, and what follows it, end as they do when they are carried out. -/
theorem brings_preparation (r : Request) (p : Plan (Except RelayError Notification)) :
    ∀ (T : Traffic) (callers : Nat → Option Caller), T.jobs id = none →
      Brings sub ⟨(proceed sub id T r p).1, Function.update callers id (proceed sub id T r p).2⟩ id
        (p.bind (afterwards sub)) := by
  induction p using Plan.next?_induction with
  | step p ih =>
    intro T callers hfree
    cases hn : p.next? 0 with
    | none =>
      obtain ⟨a, ha, hrun⟩ := Plan.run_of_next?_none hn
      refine (brings_afterwards hfree ha).congr ?_
      rw [Plan.run_bind, hrun]
    | some ck =>
      obtain ⟨c, k⟩ := ck
      have hproceed : proceed sub id T r p = (T, some ⟨r, .preparing p⟩) := by
        simp only [proceed, Plan.result?_of_next? hn]
      have hrest := ih c k hn (T.stores.answer c).1 { T with stores := (T.stores.answer c).2 } callers hfree
      have hstep : Desk.step sub ⟨T, Function.update callers id (some ⟨r, .preparing p⟩)⟩ (.act id (.lookup 0 none)) =
          ⟨(proceed sub id { T with stores := (T.stores.answer c).2 } r (k (T.stores.answer c).1)).1,
            Function.update callers id
              (proceed sub id { T with stores := (T.stores.answer c).2 } r (k (T.stores.answer c).1)).2⟩ := by
        simp [step, serve, Plan.resume, hn, Traffic.answerUnless]
      rw [hproceed]
      rw [← hstep] at hrest
      refine hrest.of_step ?_
      rw [Plan.run_bind_of_next? _ hn, hstep, proceed_stores]

/-- **A caller who is served alone gets what the submission brings**, and leaves the stores as it does. -/
theorem served_alone (sub : Submission) (id : Nat) (r : Request) (s : Stores) :
    ∃ acts : List Act,
      let C := (opened s).run sub (.act id (.come r) :: acts.map (.act id))
      C.outcome? id = some ((sub.create r).run Stores.answer s).1 ∧
        C.traffic.stores = ((sub.create r).run Stores.answer s).2 := by
  have h : Brings sub _ id ((Submission.prepare r).bind (afterwards sub)) :=
    brings_preparation r (Submission.prepare r) (.fresh s) (fun _ => none) rfl
  rw [← create_eq, Brings, proceed_stores] at h
  exact h

end Desk
end Courier
