import Courier.Proofs.Unfolding
import Courier.Submission

/-!
# The progress of a hand-off

A hand-off makes at most four calls: it asks the guard, tells it, appends its body to the queue, and writes a failure
down. `Handoff.Progress` pairs the exchanges of a hand-off so far with the plan that is left. It holds at the beginning,
every answer keeps it (`Progress.next?`), and so a hand-off ends with it, whatever it goes through (`Progress.unfolds`).
What its exchanges tell about a hand-off follows from it: when it was turned away (`Progress.taken_iff`), and what came
before a marker that it left with the guard (`Progress.before_marker`).
-/

namespace Courier

theorem Guard.key_injective {u v : String} (h : Guard.key u = Guard.key v) : u = v := by
  have h' := congrArg String.toList h
  simp only [Guard.key, String.toList_append, List.append_cancel_left_eq] at h'
  exact String.toList_inj.mp h'

/-- A call that changes the cache or a queue. -/
def Call.Writes : Call → Prop
  | .keepMarker _ _ _ | .enqueue _ _ => True
  | _ => False

namespace Exchange

def isOk (x : Exchange) : Bool :=
  match x.reply with
  | .ok _ => true
  | .error _ => false

/-- A marker was kept for a name. -/
def Admits (lifetime : Nat) (uuid : String) (x : Exchange) : Prop :=
  ∃ m, x = ⟨.keepMarker (Guard.key uuid) m lifetime, .ok ()⟩

end Exchange

namespace Handoff

/-! ## The hand-off call by call -/

/-- What is left when the guard has been told. -/
def sending (h : Handoff) : Plan (Except RelayError Unit) :=
  .ask (.enqueue h.topic h.body) fun
    | .ok () => .done (.ok ())
    | .error e => h.record (.queueDown e)

/-- What is left when the guard knows nothing of the name. -/
def marking (h : Handoff) : Plan (Except RelayError Unit) :=
  .ask (.keepMarker (Guard.key h.uuid) h.body h.lifetime) fun
    | .ok () => h.sending
    | .error e => h.record (.guardDown e)

/-- What is left when the guard has been asked. -/
def asked (h : Handoff) : Call.Reply (.readMarker (Guard.key h.uuid)) → Plan (Except RelayError Unit)
  | .ok marker => if Guard.isTaken marker then h.record (.alreadySubmitted h.uuid) else h.marking
  | .error e => h.record (.guardDown e)

theorem enqueue_then_record (h : Handoff) :
    (h.enqueue.bind fun
      | .ok () => .done (.ok ())
      | .error e => h.record e) = h.sending := by
  simp only [enqueue, sending, Plan.bind]
  congr 1
  funext r
  rcases r with e | ⟨⟩ <;> rfl

theorem run_eq (h : Handoff) : h.run = .ask (.readMarker (Guard.key h.uuid)) h.asked := by
  simp only [run, attempt, Guard.check, Plan.bind]
  congr 1
  funext r
  rcases r with e | marker
  · rfl
  · simp only [asked]
    cases Guard.isTaken marker with
    | true => rfl
    | false =>
      simp only [Plan.bind, Bool.false_eq_true, if_false, marking, Guard.mark]
      congr 1
      funext r
      rcases r with e | ⟨⟩
      · rfl
      · exact h.enqueue_then_record

/-- Every call that a hand-off can make has some property if each of these four kinds has it. -/
theorem run_within_of {P : Call → Prop} (h : Handoff) (hread : P (.readMarker (Guard.key h.uuid)))
    (hkeep : P (.keepMarker (Guard.key h.uuid) h.body h.lifetime)) (henqueue : P (.enqueue h.topic h.body))
    (hnote : ∀ e : RelayError, P (.recordFailure ⟨h.uuid, h.body, e.message⟩)) : h.run.Within P := by
  have hrecord : ∀ e, (h.record e).Within P := fun e => ⟨hnote e, fun _ => trivial⟩
  have hsending : h.sending.Within P := by
    refine ⟨henqueue, fun r => ?_⟩
    rcases r with e | ⟨⟩
    · exact hrecord _
    · exact trivial
  have hmarking : h.marking.Within P := by
    refine ⟨hkeep, fun r => ?_⟩
    rcases r with e | ⟨⟩
    · exact hrecord _
    · exact hsending
  rw [run_eq]
  refine ⟨hread, fun r => ?_⟩
  rcases r with e | m
  · exact hrecord _
  · simp only [asked]
    split
    · exact hrecord _
    · exact hmarking

/-! ## Histories -/

/-- The exchange in which the guard was asked. -/
def lookedUp (h : Handoff) (r : Call.Reply (.readMarker (Guard.key h.uuid))) : Exchange :=
  ⟨.readMarker (Guard.key h.uuid), r⟩

/-- The exchange in which the guard was told. -/
def marked (h : Handoff) (r : Call.Reply (.keepMarker (Guard.key h.uuid) h.body h.lifetime)) : Exchange :=
  ⟨.keepMarker (Guard.key h.uuid) h.body h.lifetime, r⟩

/-- The exchange in which the body went to the queue. -/
def sent (h : Handoff) (r : Call.Reply (.enqueue h.topic h.body)) : Exchange := ⟨.enqueue h.topic h.body, r⟩

/-- What is written down about an error. -/
def draft (h : Handoff) (e : RelayError) : FailureDraft := ⟨h.uuid, h.body, e.message⟩

/-- The exchange in which an error was written down. -/
def noted (h : Handoff) (e : RelayError) (r : Call.Reply (.recordFailure (h.draft e))) : Exchange :=
  ⟨.recordFailure (h.draft e), r⟩

/-- The exchanges after which a hand-off fails, with its error. -/
inductive Fails (h : Handoff) : List Exchange → RelayError → Prop
  | unread (x : String) : Fails h [h.lookedUp (.error x)] (.guardDown x)
  | taken (m : Option Octets) (hm : Guard.isTaken m = true) : Fails h [h.lookedUp (.ok m)] (.alreadySubmitted h.uuid)
  | unmarked (m : Option Octets) (hm : Guard.isTaken m = false) (x : String) :
    Fails h [h.lookedUp (.ok m), h.marked (.error x)] (.guardDown x)
  | unsent (m : Option Octets) (hm : Guard.isTaken m = false) (x : String) :
    Fails h [h.lookedUp (.ok m), h.marked (.ok ()), h.sent (.error x)] (.queueDown x)

/-- The exchanges of a hand-off so far, and what is left of it. -/
inductive Progress (h : Handoff) : List Exchange → Plan (Except RelayError Unit) → Prop
  | begun : Progress h [] h.run
  | free (m : Option Octets) (hm : Guard.isTaken m = false) : Progress h [h.lookedUp (.ok m)] h.marking
  | admitted (m : Option Octets) (hm : Guard.isTaken m = false) :
    Progress h [h.lookedUp (.ok m), h.marked (.ok ())] h.sending
  | queued (m : Option Octets) (hm : Guard.isTaken m = false) :
    Progress h [h.lookedUp (.ok m), h.marked (.ok ()), h.sent (.ok ())] (.done (.ok ()))
  | failed (es : List Exchange) (e : RelayError) (he : h.Fails es e) : Progress h es (h.record e)
  | recorded (es : List Exchange) (e : RelayError) (he : h.Fails es e) (r : Call.Reply (.recordFailure (h.draft e))) :
    Progress h (es ++ [h.noted e r]) (.done (.error e))

variable {h : Handoff}

/-- Every answer to a hand-off keeps its progress. -/
theorem Progress.next? {es : List Exchange} {p : Plan (Except RelayError Unit)} (hp : h.Progress es p) {j : Nat}
    {c : Call} {k : c.Reply → Plan (Except RelayError Unit)} (hn : p.next? j = some ⟨c, k⟩) (r : c.Reply) :
    h.Progress (es ++ [⟨c, r⟩]) (k r) := by
  cases hp with
  | begun =>
    rw [run_eq] at hn
    cases j with
    | succ j => cases hn
    | zero =>
      cases hn
      -- the guard cannot be asked, or it knows the name, or it does not
      rcases r with x | m
      · exact .failed _ _ (.unread x)
      · cases hm : Guard.isTaken m with
        | true =>
          simp only [asked, hm, if_true]
          exact .failed _ _ (.taken m hm)
        | false =>
          simp only [asked, hm, Bool.false_eq_true, if_false]
          exact .free m hm
  | free m hm =>
    cases j with
    | succ j => cases hn
    | zero =>
      cases hn
      rcases r with x | ⟨⟩
      · exact .failed _ _ (.unmarked m hm x)
      · exact .admitted m hm
  | admitted m hm =>
    cases j with
    | succ j => cases hn
    | zero =>
      cases hn
      rcases r with x | ⟨⟩
      · exact .failed _ _ (.unsent m hm x)
      · exact .queued m hm
  | queued m hm => cases hn
  | failed _ e he =>
    cases j with
    | succ j => cases hn
    | zero =>
      cases hn
      exact .recorded es e he r
  | recorded es e he r => cases hn

/-- A hand-off asks the guard, tells it, sends its body, or writes a failure down. -/
theorem Progress.call_cases {es : List Exchange} {p : Plan (Except RelayError Unit)} (hp : h.Progress es p) {j : Nat}
    {c : Call} {k : c.Reply → Plan (Except RelayError Unit)} (hn : p.next? j = some ⟨c, k⟩) :
    c = .readMarker (Guard.key h.uuid) ∨ c = .keepMarker (Guard.key h.uuid) h.body h.lifetime ∨
      c = .enqueue h.topic h.body ∨ ∃ e, c = .recordFailure (h.draft e) := by
  cases hp with
  | begun =>
    rw [run_eq] at hn
    cases j with
    | succ j => cases hn
    | zero => cases hn; exact .inl rfl
  | free m hm =>
    cases j with
    | succ j => cases hn
    | zero => cases hn; exact .inr (.inl rfl)
  | admitted m hm =>
    cases j with
    | succ j => cases hn
    | zero => cases hn; exact .inr (.inr (.inl rfl))
  | failed _ e he =>
    cases j with
    | succ j => cases hn
    | zero => cases hn; exact .inr (.inr (.inr ⟨e, rfl⟩))
  | queued m hm => cases hn
  | recorded es e he r => cases hn

/-- A hand-off that waits for nothing has ended. -/
theorem Progress.done_of_result? {es : List Exchange} {p : Plan (Except RelayError Unit)} (hp : h.Progress es p)
    {a : Except RelayError Unit} (ha : p.result? = some a) : p = .done a := by
  cases hp with
  | begun => rw [run_eq] at ha; cases ha
  | free m hm => cases ha
  | admitted m hm => cases ha
  | queued m hm => cases ha; rfl
  | failed _ e he => cases ha
  | recorded es e he r => cases ha; rfl

/-- What is left of a hand-off brings it to its end, whatever it goes through. -/
theorem Progress.unfolds {es xs : List Exchange} {p : Plan (Except RelayError Unit)} {a : Except RelayError Unit}
    (hp : h.Progress es p) (hx : p.Unfolds xs a) : h.Progress (es ++ xs) (.done a) := by
  induction hx generalizing es with
  | ended ha =>
    rw [List.append_nil, ← hp.done_of_result? ha]
    exact hp
  | answered hn rest ih =>
    have hrest := ih (hp.next? hn _)
    rwa [List.append_assoc] at hrest

theorem progress_run {σ : Type} (h : Handoff) (answer : Plan.Responder σ) (s : σ) :
    h.Progress (h.run.exchanges answer s) (.done (h.run.run answer s).1) := by
  exact Progress.begun.unfolds (h.run.unfolds_run answer s)

/-- A hand-off that has ended well has asked the guard, told it, and sent its body. -/
theorem Progress.of_ok {es : List Exchange} (hp : h.Progress es (.done (.ok ()))) :
    ∃ m, Guard.isTaken m = false ∧ es = [h.lookedUp (.ok m), h.marked (.ok ()), h.sent (.ok ())] := by
  generalize hq : (Plan.done (.ok ()) : Plan (Except RelayError Unit)) = q at hp
  cases hp with
  | begun => rw [run_eq] at hq; cases hq
  | queued m hm => exact ⟨m, hm, rfl⟩
  | free | admitted | failed | recorded => cases hq

/-- A hand-off that has ended with an error has failed with it and then written it down. -/
theorem Progress.of_error {es : List Exchange} {e : RelayError} (hp : h.Progress es (.done (.error e))) :
    ∃ steps r, h.Fails steps e ∧ es = steps ++ [h.noted e r] := by
  generalize hq : (Plan.done (.error e) : Plan (Except RelayError Unit)) = q at hp
  cases hp with
  | begun => rw [run_eq] at hq; cases hq
  | recorded steps e he r => cases hq; exact ⟨steps, r, he, rfl⟩
  | free | admitted | queued | failed => cases hq

/-! ## What a history tells -/

section Histories

variable {es : List Exchange} {p : Plan (Except RelayError Unit)}

/-- A hand-off asks the guard in its first exchange only. -/
theorem lookedUp_of_mem {m : Option Octets} {r : Call.Reply (.readMarker (Guard.key h.uuid))} {rest : List Exchange}
    (hm : h.lookedUp (.ok m) ∈ h.lookedUp r :: rest) (hr : ∀ x ∈ rest, x.call ≠ .readMarker (Guard.key h.uuid)) :
    r = .ok m := by
  rcases List.mem_cons.mp hm with hm | hm
  · injection hm with _ hr
    exact hr.symm
  · exact absurd rfl (hr _ hm)

/-- What a finished hand-off learnt from the guard decides whether it was turned away. -/
theorem Progress.taken_iff {a : Except RelayError Unit} {m : Option Octets} (hp : h.Progress es (.done a))
    (hm : h.lookedUp (.ok m) ∈ es) :
    Guard.isTaken m = true ↔ a = .error (.alreadySubmitted h.uuid) ∧ ∀ x ∈ es, ¬ x.call.Writes := by
  cases a with
  | ok _ =>
    obtain ⟨m', hfree, rfl⟩ := hp.of_ok
    obtain rfl := Except.ok.inj (lookedUp_of_mem hm (by simp [marked, sent]))
    simp [hfree]
  | error e =>
    obtain ⟨steps, r, hf, rfl⟩ := hp.of_error
    cases hf with
    | unread x => cases lookedUp_of_mem hm (by simp [noted])
    | taken m' htaken =>
      obtain rfl := Except.ok.inj (lookedUp_of_mem hm (by simp [noted]))
      simp [htaken, lookedUp, noted, Call.Writes]
    | unmarked m' hfree x =>
      obtain rfl := Except.ok.inj (lookedUp_of_mem hm (by simp [marked, noted]))
      simp [hfree]
    | unsent m' hfree x =>
      obtain rfl := Except.ok.inj (lookedUp_of_mem hm (by simp [marked, sent, noted]))
      simp [hfree]

/-- A hand-off has written nothing so far, or it began by learning that its name was free and telling the guard. -/
theorem Progress.written_cases (hp : h.Progress es p) :
    (∀ x ∈ es, x.call.Writes → x.isOk = false) ∨
      ∃ m rest, Guard.isTaken m = false ∧ es = h.lookedUp (.ok m) :: h.marked (.ok ()) :: rest ∧
        ∀ x ∈ rest, ∀ k m l, x.call ≠ .keepMarker k m l := by
  have hfails : ∀ steps e, h.Fails steps e → (∀ x ∈ steps, x.call.Writes → x.isOk = false) ∨
      ∃ m rest, Guard.isTaken m = false ∧ steps = h.lookedUp (.ok m) :: h.marked (.ok ()) :: rest ∧
        ∀ x ∈ rest, ∀ k m l, x.call ≠ .keepMarker k m l := by
    intro steps e hf
    cases hf with
    | unread x => exact .inl (by simp [lookedUp, Call.Writes])
    | taken m hm => exact .inl (by simp [lookedUp, Call.Writes])
    | unmarked m hm x => exact .inl (by simp [lookedUp, marked, Call.Writes, Exchange.isOk])
    | unsent m hm x => exact .inr ⟨m, _, hm, rfl, by simp [sent]⟩
  cases hp with
  | begun => exact .inl (by simp)
  | free m hm => exact .inl (by simp [lookedUp, Call.Writes])
  | admitted m hm => exact .inr ⟨m, _, hm, rfl, by simp⟩
  | queued m hm => exact .inr ⟨m, _, hm, rfl, by simp [sent]⟩
  | failed _ e he => exact hfails _ e he
  | recorded steps e he r =>
    rcases hfails steps e he with hw | ⟨m, rest, hm, rfl, hr⟩
    · refine .inl fun x hx => ?_
      rcases List.mem_append.mp hx with hx | hx
      · exact hw x hx
      · simp [List.mem_singleton.mp hx, noted, Call.Writes]
    · refine .inr ⟨m, rest ++ [h.noted e r], hm, rfl, fun x hx => ?_⟩
      rcases List.mem_append.mp hx with hx | hx
      · exact hr x hx
      · simp [List.mem_singleton.mp hx, noted]

/-- A hand-off that left a marker with the guard had learnt just before that its name was free, and the marker is its
own. -/
theorem Progress.before_marker {before after : List Exchange} {key : String} {marker : Octets} {life : Nat}
    (hp : h.Progress (before ++ ⟨.keepMarker key marker life, .ok ()⟩ :: after) p) :
    ∃ m, Guard.isTaken m = false ∧ before = [h.lookedUp (.ok m)] ∧
      (⟨.keepMarker key marker life, .ok ()⟩ : Exchange) = h.marked (.ok ()) := by
  rcases hp.written_cases with hw | ⟨m, rest, hm, hes, hr⟩
  · have := hw ⟨.keepMarker key marker life, .ok ()⟩ (by simp) trivial
    cases this
  · refine ⟨m, hm, ?_⟩
    rcases before with _ | ⟨x, _ | ⟨y, before⟩⟩
    · simp [lookedUp] at hes
    · simp only [List.cons_append, List.nil_append, List.cons.injEq] at hes
      obtain ⟨rfl, hx, -⟩ := hes
      exact ⟨rfl, hx⟩
    · simp only [List.cons_append, List.cons.injEq] at hes
      obtain ⟨-, -, rfl⟩ := hes
      exact absurd rfl (hr ⟨.keepMarker key marker life, .ok ()⟩ (by simp) _ _ _)

/-- What a hand-off marks is its own name. -/
theorem Progress.eq_marked {lifetime : Nat} {uuid : String} {x : Exchange} (hp : h.Progress es p) (hx : x ∈ es)
    (ha : x.Admits lifetime uuid) : uuid = h.uuid ∧ x = h.marked (.ok ()) := by
  obtain ⟨body, rfl⟩ := ha
  obtain ⟨before, after, rfl⟩ := List.append_of_mem hx
  obtain ⟨m, -, -, hmarked⟩ := hp.before_marker
  have hc := congrArg Exchange.call hmarked
  injection hc with hk
  exact ⟨Guard.key_injective hk, hmarked⟩

/-- A hand-off that sent its body had told the guard. -/
theorem Progress.marked_of_sent (hp : h.Progress es p) (hx : h.sent (.ok ()) ∈ es) : h.marked (.ok ()) ∈ es := by
  rcases hp.written_cases with hw | ⟨m, rest, hm, rfl, hr⟩
  · have := hw _ hx trivial
    cases this
  · simp

end Histories

end Handoff

end Courier
