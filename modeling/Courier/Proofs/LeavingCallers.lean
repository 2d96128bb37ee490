import Courier.Proofs.Desk
import Mathlib.Logic.Basic

/-!
# Callers who leave

A caller who leaves before the hand-off might as well never have come: without the moves of that caller, every run ends
with the same traffic (`Sound.run_without`). A caller who leaves after the hand-off has begun might as well have stayed:
without leaving, every run ends with the same traffic too (`run_staying`). So a hand-off goes on by itself, and when it
has ended, a marker that it left with the guard was followed by its body in the queue or by one failure that was written
down (`Handoff.Progress.after_marker`).
-/

namespace Courier

open Memory

/-! ## What follows a marker -/

namespace Handoff

variable {h : Handoff}

/-- What follows a marker that a hand-off left with the guard is its body in the queue, or the error of the queue and
the same body written down, and never both. -/
theorem Progress.after_marker {a : Except RelayError Unit} {before after : List Exchange} {key : String}
    {marker : Octets} {life : Nat}
    (hp : h.Progress (before ++ ⟨.keepMarker key marker life, .ok ()⟩ :: after) (.done a)) :
    key = Guard.key h.uuid ∧
      Xor (after = [⟨.enqueue h.topic marker, .ok ()⟩])
        (∃ x r, after = [⟨.enqueue h.topic marker, .error x⟩,
          ⟨.recordFailure ⟨h.uuid, marker, (RelayError.queueDown x).message⟩, r⟩]) := by
  obtain ⟨m, -, rfl, hmarked⟩ := hp.before_marker
  have hc := congrArg Exchange.call hmarked
  injection hc with hkey hmarker hlife
  subst hkey hmarker hlife
  refine ⟨rfl, ?_⟩
  cases a with
  | ok _ =>
    obtain ⟨m', -, hes⟩ := hp.of_ok
    simp only [List.singleton_append, List.cons.injEq] at hes
    obtain ⟨-, -, rfl⟩ := hes
    exact .inl ⟨rfl, by simp [sent]⟩
  | error e =>
    obtain ⟨steps, r, hf, hes⟩ := hp.of_error
    cases hf with
    | unread x => simp [lookedUp, noted] at hes
    | taken m' hm => simp [lookedUp, noted] at hes
    | unmarked m' hm x => simp [lookedUp, marked] at hes
    | unsent m' hm x =>
      simp only [List.cons_append, List.nil_append, List.cons.injEq] at hes
      obtain ⟨-, -, rfl⟩ := hes
      exact .inr ⟨⟨x, r, rfl⟩, by simp [sent, noted]⟩

end Handoff

namespace Desk

variable {sub : Submission} {C : Desk} {T : Traffic}

/-! ## Leaving before the hand-off -/

/-- The moves of one caller. -/
def Move.isOf (i : Nat) : Move → Bool
  | .act id _ => id == i
  | .pass _ => false

/-- The desk as it would be if one caller had never come. -/
def without (i : Nat) (C : Desk) : Desk := { C with callers := Function.update C.callers i none }

theorem opened_without (i : Nat) (s : Stores) : (opened s).without i = opened s := by
  simp [without, opened]

/-- A hand-off that has begun is never taken back. -/
theorem serve_handedOff? {id : Nat} {c : Option Caller} {n : Notification} (hn : handedOff? c = some n) (a : Act) :
    handedOff? (serve sub id T c a).2 = some n := by
  cases a with
  | come r =>
    cases c with
    | none => cases hn
    | some c => exact hn
  | lookup j fault =>
    simp only [serve]
    split
    · cases hn
    · exact hn
  | leave =>
    cases c with
    | none => cases hn
    | some c => simpa [serve, handedOff?] using hn
  | advance j fault => exact hn

theorem run_handedOff? {i : Nat} {n : Notification} (hn : handedOff? (C.callers i) = some n) (ms : List Move) :
    handedOff? ((C.run sub ms).callers i) = some n := by
  induction ms generalizing C with
  | nil => exact hn
  | cons m ms ih =>
    refine ih ?_
    cases m with
    | pass span => exact hn
    | act id a =>
      by_cases hid : i = id
      · subst hid
        simpa [step] using serve_handedOff? hn a
      · simpa [step, hid] using hn

/-- What happens to a caller without a hand-off does not change the traffic, unless the hand-off begins. -/
theorem serve_of_not_handedOff {id : Nat} {c : Option Caller} (hc : Fits sub (T.jobs id) c) {a : Act}
    (hn : handedOff? (serve sub id T c a).2 = none) : (serve sub id T c a).1 = T := by
  have hproceed : ∀ r p, handedOff? (proceed sub id T r p).2 = none → (proceed sub id T r p).1 = T := by
    intro r p
    unfold proceed
    split
    · exact fun _ => rfl
    · exact fun _ => rfl
    · intro h
      cases h
  cases a with
  | come r =>
    cases c with
    | none => exact hproceed r _ hn
    | some c => rfl
  | lookup j fault =>
    simp only [serve] at hn ⊢
    split
    · split
      · rfl
      · next r p _ x q stores hq =>
        obtain ⟨rfl, -⟩ := (hc.preparing r p rfl).resume hq
        simp only [hq] at hn
        exact hproceed r q hn
    · rfl
  | leave => rfl
  | advance j fault =>
    have hfree : T.jobs id = none := hc.free hn
    simp [serve, Traffic.advance, hfree]

/-- Moves of other callers do the same if a caller is not there. -/
theorem step_without {i : Nat} {m : Move} (hm : m.isOf i = false) :
    (C.without i).step sub m = (C.step sub m).without i := by
  cases m with
  | pass span => rfl
  | act id a =>
    have hid : id ≠ i := by simpa [Move.isOf] using hm
    simp [step, without, hid, Function.update_comm hid.symm]

/-- A move of a caller who has no hand-off after it leaves nothing behind. -/
theorem Sound.step_without (hC : Sound sub C) {i : Nat} {a : Act}
    (hi : handedOff? ((C.step sub (.act i a)).callers i) = none) : (C.step sub (.act i a)).without i = C.without i := by
  have hT : (serve sub i C.traffic (C.callers i) a).1 = C.traffic :=
    serve_of_not_handedOff (hC.fits i) (by simpa [Desk.step] using hi)
  simp [Desk.step, without, hT]

/-- Without the moves of a caller who never has a hand-off, every run ends as if the caller had never come. -/
theorem Sound.run_without (hC : Sound sub C) (i : Nat) (ms : List Move)
    (hend : handedOff? ((C.run sub ms).callers i) = none) :
    (C.without i).run sub (ms.filter fun m => !m.isOf i) = (C.run sub ms).without i := by
  induction ms generalizing C with
  | nil => rfl
  | cons m ms ih =>
    have hrest := ih (hC.step m) hend
    cases hm : m.isOf i with
    | false =>
      rw [List.filter_cons_of_pos (by simp [hm])]
      show ((C.without i).step sub m).run sub _ = _
      rw [Desk.step_without hm]
      exact hrest
    | true =>
      rw [List.filter_cons_of_neg (by simp [hm])]
      obtain ⟨a, rfl⟩ : ∃ a, m = .act i a := by
        cases m with
        | pass span => cases hm
        | act id a => exact ⟨a, by rw [beq_iff_eq.mp hm]⟩
      -- a hand-off now would still be there at the end
      have hnow : handedOff? ((C.step sub (.act i a)).callers i) = none := by
        cases h : handedOff? ((C.step sub (.act i a)).callers i) with
        | none => rfl
        | some n =>
          have hlater : handedOff? (((C.step sub (.act i a)).run sub ms).callers i) = some n := run_handedOff? h ms
          exact hlater.symm.trans hend
      rw [← hC.step_without hnow]
      exact hrest

/-! ## Leaving after the hand-off -/

/-- Whether one caller leaves. -/
def Move.isLeave (i : Nat) : Move → Bool
  | .act id .leave => id == i
  | _ => false

/-- A caller who would still wait instead of having left after the hand-off had begun. -/
def stay : Option Caller → Option Caller
  | some ⟨r, .leftAfter n⟩ => some ⟨r, .waiting n⟩
  | c => c

/-- The desk as it would be if one caller, having left after the hand-off had begun, still waited. -/
def staying (i : Nat) (C : Desk) : Desk := { C with callers := Function.update C.callers i (stay (C.callers i)) }

theorem opened_staying (i : Nat) (s : Stores) : (opened s).staying i = opened s := by
  simp [staying, opened, stay]

theorem run_leftBefore {i : Nat} {r : Request} (hc : C.callers i = some ⟨r, .leftBefore⟩) (ms : List Move) :
    (C.run sub ms).callers i = some ⟨r, .leftBefore⟩ := by
  induction ms generalizing C with
  | nil => exact hc
  | cons m ms ih =>
    refine ih ?_
    cases m with
    | pass span => exact hc
    | act id a =>
      by_cases hid : i = id
      · subst hid
        cases a <;> simp [step, serve, hc, Stage.leave]
      · simpa [step, hid] using hc

/-- What happens to a caller, short of leaving, happens whether the caller waits for the hand-off or has left. -/
theorem serve_stay (id : Nat) (c : Option Caller) {a : Act} (ha : a ≠ .leave) :
    serve sub id T (stay c) a = ((serve sub id T c a).1, stay (serve sub id T c a).2) := by
  have hproceed : ∀ U r p, proceed sub id U r p = ((proceed sub id U r p).1, stay (proceed sub id U r p).2) := by
    intro U r p
    unfold proceed
    split <;> rfl
  rcases c with _ | ⟨r, stage⟩
  · cases a with
    | come r => exact hproceed T r _
    | lookup j fault => rfl
    | leave => rfl
    | advance j fault => rfl
  · cases a with
    | leave => exact absurd rfl ha
    | come r' => cases stage <;> rfl
    | advance j fault => cases stage <;> rfl
    | lookup j fault =>
      cases stage with
      | preparing p =>
        simp only [stay, serve]
        split
        · rfl
        · exact hproceed _ _ _
      | refused e | waiting n | leftBefore | leftAfter n => rfl

/-- A caller who leaves after the hand-off has begun is one who might have stayed. -/
theorem serve_leave_stay (id : Nat) {c : Option Caller}
    (hc : ∀ r, (serve sub id T c .leave).2 ≠ some ⟨r, .leftBefore⟩) :
    (serve sub id T c .leave).1 = T ∧ stay (serve sub id T c .leave).2 = stay c := by
  refine ⟨rfl, ?_⟩
  rcases c with _ | ⟨r, stage⟩
  · rfl
  · cases stage with
    | preparing p => exact absurd rfl (hc r)
    | refused e => rfl
    | waiting n => rfl
    | leftBefore => exact absurd rfl (hc r)
    | leftAfter n => rfl

/-- Moves other than leaving do the same if a caller has stayed. -/
theorem step_staying (i : Nat) {m : Move} (hm : m.isLeave i = false) :
    (C.staying i).step sub m = (C.step sub m).staying i := by
  cases m with
  | pass span => rfl
  | act id a =>
    by_cases hid : id = i
    · subst hid
      have ha : a ≠ .leave := by
        rintro rfl
        simp [Move.isLeave] at hm
      have hserve : serve sub id C.traffic (stay (C.callers id)) a = _ := serve_stay id (C.callers id) ha
      simp [step, staying, hserve]
    · simp [step, staying, hid, Ne.symm hid, Function.update_comm (Ne.symm hid)]

/-- Unless a caller leaves before the hand-off, every run without leaving ends as if the caller had stayed. -/
theorem run_staying (i : Nat) (ms : List Move) (hend : ∀ r, (C.run sub ms).callers i ≠ some ⟨r, .leftBefore⟩) :
    (C.staying i).run sub (ms.filter fun m => !m.isLeave i) = (C.run sub ms).staying i := by
  induction ms generalizing C with
  | nil => rfl
  | cons m ms ih =>
    cases hm : m.isLeave i with
    | false =>
      rw [List.filter_cons_of_pos (by simp [hm])]
      show ((C.staying i).step sub m).run sub _ = _
      rw [step_staying i hm]
      exact ih hend
    | true =>
      rw [List.filter_cons_of_neg (by simp [hm])]
      have hleave : m = .act i .leave := by
        unfold Move.isLeave at hm
        split at hm
        · rw [beq_iff_eq.mp hm]
        · cases hm
      subst hleave
      -- the caller did not leave before the hand-off, for that would still be so at the end
      have hsame : (C.step sub (.act i .leave)).staying i = C.staying i := by
        have hstays : ∀ r, (serve sub i C.traffic (C.callers i) .leave).2 ≠ some ⟨r, .leftBefore⟩ :=
          fun r hr => hend r (run_leftBefore (by simpa [step] using hr) ms)
        obtain ⟨hT, hc⟩ := serve_leave_stay i hstays
        simp [step, staying, hT, hc]
      rw [← hsame]
      exact ih hend

/-! ## Leaving callers and their hand-offs -/

/-- A hand-off at the desk is that of a caller, and goes to the topic of the submission. -/
theorem Sound.exists_caller (hC : Sound sub C) {i : Nat} {job : Job} (hj : C.traffic.jobs i = some job) :
    ∃ c, C.callers i = some c ∧ job.handoff.uuid = c.request.uuid ∧ job.handoff.topic = sub.topic := by
  cases hn : handedOff? (C.callers i) with
  | none =>
    rw [(hC.fits i).free hn] at hj
    cases hj
  | some n =>
    obtain ⟨⟨r, stage⟩, hc, hstage⟩ := Option.bind_eq_some_iff.mp hn
    obtain ⟨⟨event, channels, -, rfl⟩, rest, hjob⟩ := (hC.fits i).owned r stage n hc hstage
    rw [hjob] at hj
    cases hj
    exact ⟨_, hc, rfl, rfl⟩

/-- **Nothing is lost when callers leave.** In any run, a caller who leaves before the hand-off leaves the traffic, and
so the cache, the queues and the failures, as they would be without that caller; one who leaves after the hand-off has
begun leaves them as they would be if the caller had stayed. And when a hand-off has ended, a marker that it left with
the guard bears the name of the request, and was followed by exactly one of two things: the marker went into the queue,
or it was refused by the queue and written down under that name. -/
theorem leaving_callers (sub : Submission) (s₀ : Stores) (ms : List Move) :
    let C := (opened s₀).run sub ms
    (∀ i r, C.callers i = some ⟨r, .leftBefore⟩ →
      ((opened s₀).run sub (ms.filter fun m => !m.isOf i)).traffic = C.traffic) ∧
    (∀ i r n, C.callers i = some ⟨r, .leftAfter n⟩ →
      let D := (opened s₀).run sub (ms.filter fun m => !m.isLeave i)
      D.callers i = some ⟨r, .waiting n⟩ ∧ D.traffic = C.traffic) ∧
    ∀ i job a, C.traffic.jobs i = some job → job.rest.result? = some a →
      ∃ c, C.callers i = some c ∧ ∀ before key marker life after,
        C.traffic.history i = before ++ ⟨.keepMarker key marker life, .ok ()⟩ :: after →
        key = Guard.key c.request.uuid ∧
          Xor (after = [⟨.enqueue sub.topic marker, .ok ()⟩])
            (∃ x r, after = [⟨.enqueue sub.topic marker, .error x⟩,
              ⟨.recordFailure ⟨c.request.uuid, marker, (RelayError.queueDown x).message⟩, r⟩]) := by
  intro C
  have hC : Sound sub C := (opened_sound s₀).run ms
  refine ⟨?_, ?_, ?_⟩
  · intro i r hi
    have hrun := (opened_sound s₀).run_without i ms (show handedOff? (C.callers i) = none by rw [hi]; rfl)
    rw [opened_without] at hrun
    rw [hrun]
    rfl
  · intro i r n hi
    have hstays : ∀ r', C.callers i ≠ some ⟨r', .leftBefore⟩ := by
      intro r' hr'
      rw [hi] at hr'
      cases hr'
    have hrun := run_staying i ms hstays
    rw [opened_staying] at hrun
    intro D
    have hD : D = C.staying i := hrun
    rw [hD]
    exact ⟨by simp [staying, hi, stay], rfl⟩
  · intro i job a hj ha
    obtain ⟨c, hc, huuid, htopic⟩ := hC.exists_caller hj
    refine ⟨c, hc, fun before key marker life after hhist => ?_⟩
    have hp := hC.traffic.progress i job hj
    rw [hp.done_of_result? ha, hhist] at hp
    rw [← huuid, ← htopic]
    exact hp.after_marker

def plainRequest (uuid : String) : Request :=
  ⟨uuid, "Payment", "", ["ops"], some ⟨"approved", "EUR", "ann", "bob", "transfer", 1, 100⟩⟩

/-- Three callers who leave: the first one before the hand-off, the others after it. The queue refuses the last one. -/
def hurriedMoves : List Move :=
  [.act 0 (.come (plainRequest "a")), .act 0 .leave, .act 1 (.come (plainRequest "b")), .act 1 (.lookup 0 none),
    .act 1 (.advance 0 none), .act 1 .leave, .act 2 (.come (plainRequest "c")), .act 2 (.lookup 0 none), .act 2 .leave,
    .act 1 (.advance 0 none), .act 2 (.advance 0 none), .act 2 (.advance 0 none), .act 2 (.advance 0 (some "full")),
    .act 1 (.advance 0 none), .act 2 (.advance 0 none)]

def hurried : Desk := (opened (.ofChannels [])).run ⟨"q", 10⟩ hurriedMoves

theorem leaving_callers_hurried :
    (hurried.callers 0 = some ⟨plainRequest "a", .leftBefore⟩ ∧
      ((opened (.ofChannels [])).run ⟨"q", 10⟩ (hurriedMoves.filter fun m => !m.isOf 0)).traffic = hurried.traffic) ∧
    (∃ n, hurried.callers 1 = some ⟨plainRequest "b", .leftAfter n⟩ ∧
      ((opened (.ofChannels [])).run ⟨"q", 10⟩ (hurriedMoves.filter fun m => !m.isLeave 1)).callers 1 =
        some ⟨plainRequest "b", .waiting n⟩) ∧
    ∃ job e marker r, hurried.traffic.jobs 2 = some job ∧ job.rest.result? = some (.error e) ∧
      (hurried.traffic.history 2).drop 2 = [⟨.enqueue "q" marker, .error "full"⟩,
        ⟨.recordFailure ⟨"c", marker, (RelayError.queueDown "full").message⟩, r⟩] ∧
      ∃ c, hurried.callers 2 = some c ∧ Guard.key "c" = Guard.key c.request.uuid := by
  obtain ⟨hbefore, hafter, hends⟩ := leaving_callers ⟨"q", 10⟩ (.ofChannels []) hurriedMoves
  refine ⟨⟨rfl, hbefore 0 _ rfl⟩, ⟨_, rfl, (hafter 1 _ _ rfl).1⟩, ?_⟩
  obtain ⟨c, hc, hmarkers⟩ := hends 2 _ _ rfl rfl
  exact ⟨_, _, _, _, rfl, rfl, rfl, c, hc, (hmarkers ((hurried.traffic.history 2).take 1) _ _ _ _ rfl).1⟩

end Desk

end Courier
