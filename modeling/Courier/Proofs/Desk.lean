import Courier.Proofs.SubmissionEndings
import Courier.Proofs.Traffic

/-!
# The desk

Callers come to a desk with their requests. A caller waits while the channels of the request are looked up, and then for
the hand-off, which begins as soon as the preparation has ended well and then goes on in the traffic by itself. A caller
may leave at any moment; the lookups that are left are then not made any more. Callers come, get replies and leave in
any order, and any call may fail (`Desk.step`). A move that cannot be made changes nothing.

What every run keeps is `Desk.Sound`: the traffic is sound, and its hand-offs are those of the callers that have been
prepared (`Sound.run`). A caller touches no hand-off but its own (`serve_jobs_of_ne`).
-/

namespace Courier

open Memory

/-- How far a caller has come. -/
inductive Stage
  /-- The request is checked and its channels are looked up. -/
  | preparing (rest : Plan (Except RelayError Notification))
  /-- The preparation has failed. -/
  | refused (e : RelayError)
  /-- The hand-off has begun, under the number of the caller. -/
  | waiting (n : Notification)
  /-- The caller left before the hand-off. -/
  | leftBefore
  /-- The caller left after the hand-off had begun. -/
  | leftAfter (n : Notification)

/-- A caller at the desk, or one who has been there. -/
structure Caller where
  request : Request
  stage : Stage

/-- Callers by their numbers, and the traffic of their hand-offs. -/
structure Desk where
  traffic : Traffic
  callers : Nat → Option Caller

namespace Stage

/-- The stage of somebody who leaves. -/
def leave : Stage → Stage
  | preparing _ => leftBefore
  | waiting n => leftAfter n
  | s => s

/-- The notification whose hand-off has begun. -/
def handedOff? : Stage → Option Notification
  | waiting n | leftAfter n => some n
  | _ => none

@[simp] theorem handedOff?_leave (s : Stage) : s.leave.handedOff? = s.handedOff? := by
  cases s <;> rfl

theorem leave_ne_preparing (s : Stage) (p : Plan (Except RelayError Notification)) : s.leave ≠ preparing p := by
  cases s <;> exact nofun

end Stage

namespace Desk

/-- What can happen to a caller. -/
inductive Act
  /-- The caller comes with a request, under a number that is free. -/
  | come (r : Request)
  /-- One of the lookups that the caller waits for is answered, or fails for a reason. -/
  | lookup (j : Nat) (fault : Option String)
  | leave
  /-- The hand-off gets a reply. -/
  | advance (j : Nat) (fault : Option String)

/-- What can happen next. -/
inductive Move
  /-- Something happens to one of the callers. -/
  | act (id : Nat) (a : Act)
  | pass (span : Nat)

/-- Nobody has come. -/
def opened (s : Stores) : Desk := ⟨.fresh s, fun _ => none⟩

/-- A preparation goes on, or ends with an error, or ends with a notification, whose hand-off begins at once. -/
def proceed (sub : Submission) (id : Nat) (T : Traffic) (r : Request) (p : Plan (Except RelayError Notification)) :
    Traffic × Option Caller :=
  match p.result? with
  | none => (T, some ⟨r, .preparing p⟩)
  | some (.error e) => (T, some ⟨r, .refused e⟩)
  | some (.ok n) => (T.begin id (sub.handoff n), some ⟨r, .waiting n⟩)

/-- The traffic and the caller after something has happened to the caller. -/
def serve (sub : Submission) (id : Nat) (T : Traffic) (c : Option Caller) : Act → Traffic × Option Caller
  | .come r =>
    match c with
    | none => proceed sub id T r (Submission.prepare r)
    | some _ => (T, c)
  | .lookup j fault =>
    match c with
    | some ⟨r, .preparing p⟩ =>
      match p.resume (Traffic.answerUnless fault) j T.stores with
      | none => (T, c)
      | some (_, p, stores) => proceed sub id { T with stores := stores } r p
    | _ => (T, c)
  | .leave => (T, c.map fun c => { c with stage := c.stage.leave })
  | .advance j fault => (T.advance id j fault, c)

/-- The desk after a move. -/
def step (sub : Submission) (C : Desk) : Move → Desk
  | .act id a =>
    let (T, c) := serve sub id C.traffic (C.callers id) a
    ⟨T, Function.update C.callers id c⟩
  | .pass span => { C with traffic := C.traffic.pass span }

def run (sub : Submission) (C : Desk) (ms : List Move) : Desk := ms.foldl (step sub) C

end Desk

/-! ## Preparation -/

/-- A notification is what a request asks for, with some channels. -/
def Request.Prepares (r : Request) (n : Notification) : Prop :=
  ∃ event channels, r.check = .ok event ∧ n = r.toNotification event channels

/-- A preparation ends with an error or with what the request asks for. -/
theorem Submission.prepare_ends (r : Request) : (prepare r).Ends fun a => ∀ n, a = .ok n → r.Prepares n := by
  unfold prepare
  cases hc : r.check with
  | error f =>
    rw [Request.validate_of_check_error hc]
    exact fun n h => by cases h
  | ok event =>
    rw [Request.validate_of_check hc]
    refine (Plan.ends_true _).bind fun a _ => ?_
    cases a with
    | error e => exact fun n h => by cases h
    | ok channels =>
      intro n h
      cases h
      exact ⟨event, channels, hc, rfl⟩

theorem Traffic.answerUnless_of_lookup {c : Call} (hc : c.IsLookup) (fault : Option String) (s : Stores) :
    (answerUnless fault c s).2 = s := by
  cases fault with
  | some e => rfl
  | none => cases c <;> first | rfl | exact hc.elim

/-- A preparation that makes lookups only and ends with what a request asks for. -/
structure Preparation (r : Request) (p : Plan (Except RelayError Notification)) : Prop where
  within : p.Within Call.IsLookup
  ends : p.Ends fun a => ∀ n, a = .ok n → r.Prepares n

theorem preparation_prepare (r : Request) : Preparation r (Submission.prepare r) :=
  ⟨Submission.prepare_within r, Submission.prepare_ends r⟩

/-- A preparation that gets a reply leaves the stores alone and remains a preparation. -/
theorem Preparation.resume {r : Request} {p q : Plan (Except RelayError Notification)} (hp : Preparation r p)
    {fault : Option String} {j : Nat} {s s' : Stores} {x : Exchange}
    (h : p.resume (Traffic.answerUnless fault) j s = some (x, q, s')) : s' = s ∧ Preparation r q := by
  obtain ⟨⟨c, k⟩, hn, he⟩ := Option.map_eq_some_iff.mp h
  obtain ⟨hc, hk⟩ := hp.within.next? hn
  cases he
  exact ⟨Traffic.answerUnless_of_lookup hc fault s, hk _, hp.ends.next? hn _⟩

namespace Desk

/-! ## The invariant -/

/-- The notification that a caller, if there is one, has handed off. -/
def handedOff? (c : Option Caller) : Option Notification := c.bind fun c => c.stage.handedOff?

/-- A caller, if there is one, has the hand-off of the stage. -/
structure Fits (sub : Submission) (job : Option Job) (c : Option Caller) : Prop where
  /-- Nothing goes on for somebody who has not handed off. -/
  free : handedOff? c = none → job = none
  /-- What has been handed off is what the request asks for. -/
  owned : ∀ r stage n, c = some ⟨r, stage⟩ → stage.handedOff? = some n →
    r.Prepares n ∧ ∃ rest, job = some ⟨sub.handoff n, rest⟩
  /-- What goes on before the hand-off is a preparation. -/
  preparing : ∀ r p, c = some ⟨r, .preparing p⟩ → Preparation r p

/-- What every run keeps. -/
structure Sound (sub : Submission) (C : Desk) : Prop where
  traffic : C.traffic.Sound sub.lifetime
  /-- Every caller has the hand-off of the stage, and nobody else has one. -/
  fits : ∀ i, Fits sub (C.traffic.jobs i) (C.callers i)

variable {sub : Submission} {C : Desk} {T : Traffic}

/-- What happens to a caller does not touch the hand-off of another one. -/
theorem serve_jobs_of_ne {id k : Nat} (hk : k ≠ id) (c : Option Caller) (a : Act) :
    (serve sub id T c a).1.jobs k = T.jobs k := by
  have hbegin : ∀ U h, (Traffic.begin U id h).jobs k = U.jobs k := by
    intro U h
    rcases U.begin_cases id h with he | ⟨-, he⟩
    · rw [he]
    · rw [he]
      exact Function.update_of_ne hk _ _
  have hproceed : ∀ U r p, (proceed sub id U r p).1.jobs k = U.jobs k := by
    intro U r p
    unfold proceed
    split
    · rfl
    · rfl
    · exact hbegin U _
  cases a with
  | come r =>
    cases c with
    | none => exact hproceed T r _
    | some c => rfl
  | lookup j fault =>
    simp only [serve]
    split
    · split
      · rfl
      · exact hproceed _ _ _
    · rfl
  | leave => rfl
  | advance j fault =>
    rcases T.advance_cases id j fault with he | ⟨job, d, next, -, -, he⟩
    · simp only [serve, he]
    · simp only [serve, he]
      exact Function.update_of_ne hk _ _

/-- A hand-off that gets a reply is still the hand-off of the same notification. -/
theorem advance_fits {id : Nat} {c : Option Caller} (hc : Fits sub (T.jobs id) c) (j : Nat) (fault : Option String) :
    Fits sub ((T.advance id j fault).jobs id) c := by
  rcases T.advance_cases id j fault with he | ⟨job, d, next, hj, -, he⟩
  · rw [he]
    exact hc
  · rw [he]
    simp only [Function.update_self]
    rw [hj] at hc
    refine ⟨fun hn => ?_, fun r stage n hs hn => ?_, hc.preparing⟩
    · cases hc.free hn
    · obtain ⟨hprep, rest, hjob⟩ := hc.owned r stage n hs hn
      cases hjob
      exact ⟨hprep, _, rfl⟩

/-- Whatever a preparation comes to, the traffic stays sound and the caller has the hand-off of the stage. -/
theorem proceed_sound {id : Nat} {r : Request} {p : Plan (Except RelayError Notification)}
    (hT : T.Sound sub.lifetime) (hfree : T.jobs id = none) (hp : Preparation r p) :
    (proceed sub id T r p).1.Sound sub.lifetime ∧
      Fits sub ((proceed sub id T r p).1.jobs id) (proceed sub id T r p).2 := by
  unfold proceed
  split
  · refine ⟨hT, fun _ => hfree, ?_, ?_⟩
    · rintro _ _ _ ⟨⟩ hn
      cases hn
    · rintro _ _ ⟨⟩
      exact hp
  · refine ⟨hT, fun _ => hfree, ?_, nofun⟩
    rintro _ _ _ ⟨⟩ hn
    cases hn
  · next n hn =>
    refine ⟨hT.begin id rfl (Traffic.encode_ne_nil n), nofun, ?_, nofun⟩
    rintro _ _ _ ⟨⟩ ⟨⟩
    exact ⟨hp.ends.result? hn n rfl, (sub.handoff n).run, by simp [Traffic.begin, hfree]⟩

/-- Whatever happens to a caller, the traffic stays sound and the caller has the hand-off of the stage. -/
theorem serve_sound {id : Nat} {c : Option Caller} (hT : T.Sound sub.lifetime) (hc : Fits sub (T.jobs id) c)
    (a : Act) :
    (serve sub id T c a).1.Sound sub.lifetime ∧ Fits sub ((serve sub id T c a).1.jobs id) (serve sub id T c a).2 := by
  cases a with
  | come r =>
    cases c with
    | none => exact proceed_sound hT (hc.free rfl) (preparation_prepare r)
    | some c => exact ⟨hT, hc⟩
  | lookup j fault =>
    simp only [serve]
    split
    · split
      · exact ⟨hT, hc⟩
      · next r p _ x q stores hq =>
        obtain ⟨rfl, hprep⟩ := (hc.preparing r p rfl).resume hq
        exact proceed_sound hT (hc.free rfl) hprep
    · exact ⟨hT, hc⟩
  | leave =>
    refine ⟨hT, ?_⟩
    cases c with
    | none => exact hc
    | some c =>
      obtain ⟨r, stage⟩ := c
      refine ⟨fun hn => hc.free (by simpa [serve, handedOff?] using hn), ?_, ?_⟩
      · rintro _ _ n ⟨⟩ hn
        exact hc.owned r stage n rfl (by simpa using hn)
      · intro r' p hp
        simp only [serve, Option.map_some, Option.some.injEq, Caller.mk.injEq] at hp
        exact absurd hp.2 (stage.leave_ne_preparing p)
  | advance j fault => exact ⟨hT.advance id j fault, advance_fits hc j fault⟩

theorem opened_sound (s : Stores) : Sound sub (opened s) :=
  ⟨Traffic.fresh_sound s, fun _ => ⟨fun _ => rfl, fun _ _ _ h => (nomatch h), fun _ _ h => (nomatch h)⟩⟩

theorem Sound.step (hC : Sound sub C) (m : Move) : Sound sub (C.step sub m) := by
  cases m with
  | act id a =>
    obtain ⟨hT, hid⟩ := serve_sound hC.traffic (hC.fits id) a
    refine ⟨hT, fun k => ?_⟩
    by_cases hk : k = id
    · subst hk
      simpa [Desk.step] using hid
    · simpa [Desk.step, hk, serve_jobs_of_ne hk] using hC.fits k
  | pass span => exact ⟨hC.traffic.pass span, hC.fits⟩

theorem Sound.run (hC : Sound sub C) (ms : List Move) : Sound sub (C.run sub ms) := by
  induction ms generalizing C with
  | nil => exact hC
  | cons m ms ih => exact ih (hC.step m)

end Desk

end Courier
