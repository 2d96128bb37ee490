import Courier.FailureLog
import Courier.Memory.Stores
import Courier.Proofs.Deliveries
import Courier.Proofs.SubmissionEndings

/-!
# Circulation

Notifications circulate: a submission puts one into the queue, a dispatch takes it out and may leave a record of it, and
a record can be dispatched or queued again. `Circulation.run` does so any number of times, in any order, among
surroundings that reply to every call as they like, and can let each one fail. What circulates stays fit: a counter
below `maxRetries` and channels under their own ids. This is so because submissions and dispatches can leave nothing
else behind (`create_within`, `dispatch_within`), and with the numbering of the records it makes the invariant `Sound`
(`Sound.run`).
-/

namespace Courier

open Memory

/-- A notification that can be dispatched without being turned away. -/
structure Notification.Fit (n : Notification) : Prop where
  nonneg : 0 ≤ n.retries
  below : n.retries < Dispatch.maxRetries
  /-- Every channel stands under its own id. -/
  keyed : ∀ e ∈ n.channels.entries, e.1 = e.2.id

/-- What the call leaves behind, if anything, holds a fit notification; a record has its name. -/
def Call.LeavesFit : Call → Prop
  | .enqueue _ payload => ∃ n : Notification, Wire.decode payload = .ok n ∧ n.Fit
  | .recordFailure d => ∃ n : Notification, Wire.decode d.body = .ok n ∧ n.Fit ∧ n.uuid = d.uuid
  | _ => True

theorem Call.leavesFit_of_lookup {c : Call} (h : c.IsLookup) : c.LeavesFit := by
  cases c with
  | enqueue => exact h.elim
  | recordFailure => exact h.elim
  | _ => exact trivial

theorem Call.leavesFit_of_delivery {c : Call} (h : c.isDelivery = true) : c.LeavesFit := by
  cases c with
  | enqueue => cases h
  | recordFailure => cases h
  | _ => exact trivial

/-! ## What submissions and dispatches leave behind -/

/-- A resolution puts every channel under its own id. -/
theorem Resolution.resolve_ends (t : Targets) :
    (resolve t).Ends fun a => ∀ m, a = .ok m → ∀ e ∈ m.entries, e.1 = e.2.id := by
  have hsettle : ∀ byId byGroup m, settle byId byGroup = .ok m → ∀ e ∈ m.entries, e.1 = e.2.id := by
    intro byId byGroup m h e he
    obtain ⟨cs, ds, rfl, rfl, rfl⟩ := settle_ok h
    exact (mem_entries_merge he).2
  rcases resolve_cases t with h | ⟨gs, h⟩ | ⟨is, h⟩ | ⟨is, gs, h⟩ <;> rw [h]
  · exact hsettle _ _
  all_goals exact fun rs => hsettle _ _

/-- What a submission prepares is fit. -/
theorem Submission.prepare_ends_fit (r : Request) : (prepare r).Ends fun a => ∀ n, a = .ok n → n.Fit := by
  unfold prepare
  cases r.validate with
  | error e => exact fun n h => by cases h
  | ok event =>
    refine (Resolution.resolve_ends _).bind fun a ha => ?_
    cases a with
    | error e => exact fun n h => by cases h
    | ok channels =>
      intro n h
      cases h
      have hnonneg : (0 : Int64) ≤ 0 := by decide
      have hbelow : (0 : Int64) < Dispatch.maxRetries := by decide
      exact ⟨hnonneg, hbelow, ha channels rfl⟩

/-- A hand-off of a fit notification leaves that behind, or nothing. -/
theorem Handoff.run_within {h : Handoff} {n : Notification} (hbody : h.body = Wire.encode n) (huuid : h.uuid = n.uuid)
    (hn : n.Fit) : h.run.Within Call.LeavesFit := by
  have hdecode : Wire.decode h.body = .ok n := by rw [hbody, decode_encode_notification]
  exact h.run_within_of trivial trivial ⟨n, hdecode, hn⟩ fun _ => ⟨n, hdecode, hn, huuid.symm⟩

/-- A submission leaves a fit notification behind, or nothing. -/
theorem Submission.create_within (sub : Submission) (r : Request) : (sub.create r).Within Call.LeavesFit := by
  unfold create
  refine ((prepare_within r).mono fun _ => Call.leavesFit_of_lookup).bind_of_ends (prepare_ends_fit r) fun a ha => ?_
  cases a with
  | error e => exact trivial
  | ok n =>
    refine (Handoff.run_within (h := sub.handoff n) rfl rfl (ha n rfl)).bind fun b => ?_
    rcases b with e | ⟨⟩ <;> exact trivial

namespace Dispatch

/-- A fit notification with an attempt left is fit for the next one. -/
theorem fit_again {n : Notification} (hn : n.Fit) (hleft : ¬ maxRetries - 1 ≤ n.retries) : (again n).Fit := by
  obtain ⟨hlt, hnext⟩ := toInt_again hn.nonneg hleft
  refine ⟨again_nonneg hn.nonneg hleft, Int64.lt_iff_toInt_lt.mpr ?_, hn.keyed⟩
  omega

theorem giveWay_within {n : Notification} (hn : n.Fit) (errors : String) :
    (giveWay n errors).Within Call.LeavesFit := by
  unfold giveWay
  split
  · exact trivial
  · next hleft =>
    refine ⟨⟨again n, decode_encode_notification _, fit_again hn hleft, rfl⟩, fun r => ?_⟩
    rcases r with e | r <;> exact trivial

/-- A dispatch of a fit notification leaves a fit notification behind, or nothing. -/
theorem dispatch_within {payload : Octets} {n : Notification} (h : Wire.decode payload = .ok n) (hn : n.Fit) :
    (dispatch payload).Within Call.LeavesFit := by
  rw [dispatch_of_decode h hn.nonneg, deliver_eq]
  refine ⟨fun c hc => Call.leavesFit_of_delivery (isDelivery_of_mem_deliveries hc), fun rs => ?_⟩
  simp only [conclude]
  split
  · exact trivial
  · exact giveWay_within hn _

/-- A dispatch of a fit notification never ends because the notification cannot be read or breaks a rule. -/
theorem dispatch_accepts {payload : Octets} {n : Notification} (h : Wire.decode payload = .ok n) (hn : n.Fit)
    {es : List Exchange} {a : Except RelayError Outcome} (ha : (dispatch payload).Unfolds es a) :
    (∀ p, a ≠ .error (.unreadable p)) ∧ ∀ reason, a ≠ .error (.invalid reason) := by
  rw [dispatch_of_decode h hn.nonneg] at ha
  obtain ⟨rs, xs, ys, -, -, hys⟩ := deliver_unfolds_iff.mp ha
  cases hys <;> exact ⟨nofun, nofun⟩

end Dispatch

/-! ## Surroundings -/

/-- What the surroundings reply to the calls of an operation, by the number of the call. -/
abbrev Surroundings := Nat → (c : Call) → c.Reply

/-- A call on a queue or on the records. -/
def Call.isKept : Call → Bool
  | .enqueue _ _ | .recordFailure _ | .loadFailure _ => true
  | _ => false

namespace Circulation

/-- Queues and records answer the calls on them, unless the surroundings let a call fail. All other replies are those of
the surroundings, and a call that fails has no effect. -/
def answer (w : Surroundings) : Plan.Responder (Nat × Stores) := fun c (k, s) =>
  match w k c with
  | .error e => (.error e, k + 1, s)
  | .ok a => if c.isKept then ((s.answer c).1, k + 1, (s.answer c).2) else (.ok a, k + 1, s)

/-- A call leaves the stores alone, or they answer it. -/
theorem answer_cases (w : Surroundings) (c : Call) (s : Nat × Stores) :
    (answer w c s).2.2 = s.2 ∨ (answer w c s).2.2 = (s.2.answer c).2 := by
  obtain ⟨k, s⟩ := s
  cases hw : w k c with
  | error e =>
    left
    simp only [answer, hw]
  | ok a =>
    by_cases hc : c.isKept = true
    · right
      simp only [answer, hw, if_pos hc]
    · left
      simp only [answer, hw, if_neg hc]

/-- What can be done with notifications. -/
inductive Operation
  | create (r : Request)
  /-- Dispatches the message that has waited longest. -/
  | dispatchNext
  /-- Dispatches what a record holds; records are counted from zero. -/
  | redrive (i : Nat)
  /-- Puts what a record holds into the queue again. -/
  | requeue (i : Nat)

/-- What an operation takes out of the stores, and the plan that it then follows. -/
def begin (sub : Submission) (s : Stores) : Operation → Stores × Plan Unit
  | .create r => (s, (sub.create r).map fun _ => ())
  | .dispatchNext =>
    match (s.queues.pop sub.topic).1 with
    | none => (s, .done ())
    | some p => ({ s with queues := (s.queues.pop sub.topic).2 }, (Dispatch.dispatch p).map fun _ => ())
  | .redrive i =>
    match s.records[i]? with
    | none => (s, .done ())
    | some r => (s, (Dispatch.dispatch r.body).map fun _ => ())
  | .requeue i =>
    match s.records[i]? with
    | none => (s, .done ())
    | some r => (s, .ask (.enqueue sub.topic r.body) fun _ => .done ())

/-- The stores after an operation among some surroundings. -/
def perform (sub : Submission) (s : Stores) (op : Operation × Surroundings) : Stores :=
  ((begin sub s op.1).2.run (answer op.2) (0, (begin sub s op.1).1)).2.2

def run (sub : Submission) (s : Stores) (ops : List (Operation × Surroundings)) : Stores := ops.foldl (perform sub) s

/-! ## The invariant -/

/-- What waits in queues and what was written down is fit, and records are numbered as they came. -/
structure Sound (s : Stores) : Prop where
  queued : ∀ topic, ∀ p ∈ s.waiting topic, ∃ n : Notification, Wire.decode p = .ok n ∧ n.Fit
  recorded : ∀ r ∈ s.records, ∃ n : Notification, Wire.decode r.body = .ok n ∧ n.Fit ∧ n.uuid = r.uuid
  numbered : ∀ (i : Nat) (r : FailureRecord), s.records[i]? = some r → r.id = Int64.ofNat (i + 1)

theorem empty_sound : Sound (Stores.ofChannels []) where
  queued := by
    intro topic p hp
    cases hp
  recorded := by
    intro r hr
    cases hr
  numbered := by
    intro i r hr
    cases hr

theorem Sound.of_eq {s s' : Stores} (h : Sound s) (hq : s'.queues = s.queues) (hr : s'.records = s.records) :
    Sound s' where
  queued := by
    simp only [Stores.waiting, hq]
    exact h.queued
  recorded := by
    rw [hr]
    exact h.recorded
  numbered := by
    rw [hr]
    exact h.numbered

theorem Sound.push {s : Stores} (h : Sound s) {topic : String} {payload : Octets} {n : Notification}
    (hdecode : Wire.decode payload = .ok n) (hn : n.Fit) : Sound (s.push topic payload) where
  queued := by
    intro other p hp
    by_cases ho : other = topic
    · subst ho
      rw [Stores.waiting, Stores.push, Queues.waiting_push_self] at hp
      rcases List.mem_append.mp hp with hp | hp
      · exact h.queued other p hp
      · rw [List.mem_singleton.mp hp]
        exact ⟨n, hdecode, hn⟩
    · rw [Stores.waiting, Stores.push, Queues.waiting_push_of_ne ho] at hp
      exact h.queued other p hp
  recorded := h.recorded
  numbered := h.numbered

theorem Sound.record {s : Stores} (h : Sound s) {d : FailureDraft} {n : Notification}
    (hdecode : Wire.decode d.body = .ok n) (hn : n.Fit) (huuid : n.uuid = d.uuid) :
    Sound { s with records := (s.records.add (fun _ => .epoch) d).2 } where
  queued := h.queued
  recorded := by
    intro r hr
    rcases List.mem_append.mp hr with hr | hr
    · exact h.recorded r hr
    · rw [List.mem_singleton.mp hr]
      exact ⟨n, hdecode, hn, huuid⟩
  numbered := by
    intro i r hr
    simp only [Records.add, List.getElem?_append] at hr
    split at hr
    · exact h.numbered i r hr
    · next hi =>
      obtain ⟨hlt, rfl⟩ := List.getElem?_eq_some_iff.mp hr
      have hlength : i = s.records.length := by
        simp only [List.length_singleton] at hlt
        omega
      simp [Records.nextId, hlength]

/-- A call that leaves nothing unfit behind keeps the stores sound. -/
theorem Sound.answer {s : Stores} (h : Sound s) {c : Call} (hc : c.LeavesFit) : Sound (s.answer c).2 := by
  cases c with
  | enqueue topic payload =>
    obtain ⟨n, hdecode, hn⟩ := hc
    exact h.push hdecode hn
  | recordFailure d =>
    obtain ⟨n, hdecode, hn, huuid⟩ := hc
    exact h.record hdecode hn huuid
  | _ => exact h.of_eq rfl rfl

theorem Sound.pop {s : Stores} (h : Sound s) (topic : String) :
    Sound { s with queues := (s.queues.pop topic).2 } where
  queued := by
    intro other p hp
    refine h.queued other p ?_
    by_cases ho : other = topic
    · subst ho
      rw [Stores.waiting, ← Queues.waiting_pop_self]
      exact List.mem_append_right _ hp
    · rw [Stores.waiting, Queues.waiting_pop_of_ne ho] at hp
      exact hp
  recorded := h.recorded
  numbered := h.numbered

theorem mem_waiting_of_pop {s : Stores} {topic : String} {p : Octets} (h : (s.queues.pop topic).1 = some p) :
    p ∈ s.waiting topic := by
  rw [Stores.waiting, ← Queues.waiting_pop_self, h]
  exact List.mem_cons_self

/-- What an operation begins with is sound, and it leaves nothing unfit behind. -/
theorem Sound.begin {s : Stores} (h : Sound s) (sub : Submission) (op : Operation) :
    Sound (begin sub s op).1 ∧ (begin sub s op).2.Within Call.LeavesFit := by
  cases op with
  | create r => exact ⟨h, (sub.create_within r).bind fun _ => trivial⟩
  | dispatchNext =>
    simp only [Circulation.begin]
    cases hp : (s.queues.pop sub.topic).1 with
    | none => exact ⟨h, trivial⟩
    | some p =>
      obtain ⟨n, hdecode, hn⟩ := h.queued _ p (mem_waiting_of_pop hp)
      exact ⟨h.pop _, (Dispatch.dispatch_within hdecode hn).bind fun _ => trivial⟩
  | redrive i =>
    simp only [Circulation.begin]
    cases hr : s.records[i]? with
    | none => exact ⟨h, trivial⟩
    | some r =>
      obtain ⟨n, hdecode, hn, -⟩ := h.recorded r (List.mem_of_getElem? hr)
      exact ⟨h, (Dispatch.dispatch_within hdecode hn).bind fun _ => trivial⟩
  | requeue i =>
    simp only [Circulation.begin]
    cases hr : s.records[i]? with
    | none => exact ⟨h, trivial⟩
    | some r =>
      obtain ⟨n, hdecode, hn, -⟩ := h.recorded r (List.mem_of_getElem? hr)
      exact ⟨h, ⟨n, hdecode, hn⟩, fun _ => trivial⟩

theorem Sound.perform {s : Stores} (h : Sound s) (sub : Submission) (op : Operation × Surroundings) :
    Sound (perform sub s op) := by
  obtain ⟨hbegin, hwithin⟩ := h.begin sub op.1
  refine hwithin.keeps (I := fun st : Nat × Stores => Sound st.2) (fun c st hc hst => ?_) hbegin
  rcases answer_cases op.2 c st with he | he <;> rw [he]
  · exact hst
  · exact hst.answer hc

theorem Sound.run {s : Stores} (h : Sound s) (sub : Submission) (ops : List (Operation × Surroundings)) :
    Sound (run sub s ops) := by
  induction ops generalizing s with
  | nil => exact h
  | cons op ops ih => exact ih (h.perform sub op)

/-! ## Records are there for good -/

theorem begin_records (sub : Submission) (s : Stores) (op : Operation) : (begin sub s op).1.records = s.records := by
  cases op with
  | create r => rfl
  | _ =>
    simp only [begin]
    split <;> rfl

theorem records_answer (s : Stores) (c : Call) : s.records <+: (s.answer c).2.records := by
  cases c with
  | recordFailure d => exact List.prefix_append _ _
  | _ => exact List.prefix_refl _

theorem records_perform (sub : Submission) (s : Stores) (op : Operation × Surroundings) :
    s.records <+: (perform sub s op).records := by
  refine (Plan.within_true _).keeps (I := fun st : Nat × Stores => s.records <+: st.2.records) (fun c st _ hst => ?_) ?_
  · rcases answer_cases op.2 c st with he | he <;> rw [he]
    · exact hst
    · exact hst.trans (records_answer _ c)
  · simp only [begin_records, List.prefix_refl]

/-- No record is ever changed or removed. -/
theorem records_run (sub : Submission) (s : Stores) (ops : List (Operation × Surroundings)) :
    s.records <+: (run sub s ops).records := by
  induction ops generalizing s with
  | nil => exact List.prefix_refl _
  | cons op ops ih => exact (records_perform sub s op).trans (ih _)

/-! ## Looking records up -/

/-- What an operator is shown who asks for a record. -/
def view (w : Surroundings) (s : Stores) (id : Int64) : Except ServiceError FailureView :=
  ((FailureLog.view id).run (answer w) (0, s)).1

theorem view_of_fault {w : Surroundings} {id : Int64} {e : String} (hw : w 0 (.loadFailure id) = .error e)
    (s : Stores) : ∃ reason, view w s id = .error (.internal reason) := by
  simp only [view, FailureLog.view, Plan.run, answer, hw]
  exact ⟨_, rfl⟩

/-- When the records answer, what is shown is what they have for the id. -/
theorem view_of_answer {w : Surroundings} {id : Int64} {a : Call.Answer (.loadFailure id)}
    (hw : w 0 (.loadFailure id) = .ok a) (s : Stores) :
    view w s id = match s.records.find id with
      | none => .error (.notFound ("Notification error " ++ Decimal.ofInt id.toInt ++ " not found"))
      | some r => FailureLog.present id r := by
  simp only [view, FailureLog.view, Plan.run, answer, hw, Call.isKept, if_true, Stores.answer]
  cases s.records.find id <;> rfl

theorem present_of_decode {id : Int64} {r : FailureRecord} {n : Notification} (h : Wire.decode r.body = .ok n) :
    FailureLog.present id r = .ok ⟨r.id, r.uuid, n, r.error⟩ := by
  rw [FailureLog.present, h]

/-- Ids tell as many records apart as there are ids. -/
theorem Sound.find_of_get {s : Stores} (h : Sound s) {i : Nat} {r : FailureRecord} (hr : s.records[i]? = some r)
    (hi : i < 2 ^ 64) : s.records.find r.id = some r := by
  obtain ⟨hlt, hri⟩ := List.getElem?_eq_some_iff.mp hr
  refine List.find?_eq_some_iff_getElem.mpr ⟨by simp, i, hlt, hri, fun j hj => ?_⟩
  have hjlt : j < s.records.length := hj.trans hlt
  have hne : s.records[j].id ≠ r.id := by
    rw [h.numbered j _ (List.getElem?_eq_getElem hjlt), h.numbered i r hr]
    intro he
    -- both places are below the number of ids, so the ids differ as the places do
    have hnat := congrArg (fun x => x.toBitVec.toNat) he
    simp only [Int64.toBitVec_ofNat', BitVec.toNat_ofNat] at hnat
    omega
  simpa using hne

/-- When the records answer and one has the id, a record with that id is shown. -/
theorem Sound.view_of_mem {s : Stores} (h : Sound s) {w : Surroundings} {r : FailureRecord} (hr : r ∈ s.records)
    {a : Call.Answer (.loadFailure r.id)} (hw : w 0 (.loadFailure r.id) = .ok a) :
    ∃ (shown : FailureRecord) (n : Notification), s.records.find r.id = some shown ∧ shown ∈ s.records ∧
      shown.id = r.id ∧ Wire.decode shown.body = .ok n ∧
      view w s r.id = .ok ⟨r.id, shown.uuid, n, shown.error⟩ := by
  cases hf : s.records.find r.id with
  | none => exact absurd (beq_self_eq_true r.id) (List.find?_eq_none.mp hf r hr)
  | some shown =>
    have hmem : shown ∈ s.records := List.mem_of_find?_eq_some hf
    have hid : shown.id = r.id := by simpa using List.find?_some hf
    obtain ⟨n, hdecode, -⟩ := h.recorded shown hmem
    refine ⟨shown, n, rfl, hmem, hid, hdecode, ?_⟩
    rw [view_of_answer hw, hf, ← hid]
    exact present_of_decode hdecode

theorem Sound.view_notFound_iff {s : Stores} (h : Sound s) {w : Surroundings} {id : Int64}
    {a : Call.Answer (.loadFailure id)} (hw : w 0 (.loadFailure id) = .ok a) :
    (∃ reason, view w s id = .error (.notFound reason)) ↔ ∀ r ∈ s.records, r.id ≠ id := by
  constructor
  · rintro ⟨reason, hnot⟩ r hr rfl
    obtain ⟨shown, n, -, -, -, -, hview⟩ := h.view_of_mem hr hw
    rw [hnot] at hview
    cases hview
  · intro hall
    have hf : s.records.find id = none := List.find?_eq_none.mpr fun r hr => by simpa using hall r hr
    rw [view_of_answer hw, hf]
    exact ⟨_, rfl⟩

/-- **Notifications circulate soundly.** Begin with empty queues and no records, and do anything any number of times:
submit requests, dispatch what waits, dispatch or queue again what was written down, each time among any surroundings.
Then whatever waits and whatever was written down can be read, with a counter below `maxRetries` and every channel under
its own id; records have the names that are in them, are numbered from one on and stay as they are. Unless the records
cannot be asked, an operator is told that there is none exactly for ids that were never given, and for an id that was
given is shown the record that has it, with its notification. (Ids tell the first `2 ^ 64` records apart; of records
with the same id, one is shown.) No dispatch of what waits or was written down ends because it cannot be read or breaks
a rule. -/
theorem circulation_sound (sub : Submission) (ops : List (Operation × Surroundings)) :
    let s := run sub (Stores.ofChannels []) ops
    Sound s ∧ (∀ later, s.records <+: (run sub s later).records) ∧
    (∀ (w : Surroundings) (id : Int64),
      (∀ e, w 0 (.loadFailure id) = .error e → ∃ reason, view w s id = .error (.internal reason)) ∧
      ∀ a, w 0 (.loadFailure id) = .ok a →
        ((∃ reason, view w s id = .error (.notFound reason)) ↔ ∀ r ∈ s.records, r.id ≠ id) ∧
        ∀ (i : Nat) (r : FailureRecord), s.records[i]? = some r → r.id = id →
          ∃ (shown : FailureRecord) (n : Notification), shown ∈ s.records ∧ shown.id = id ∧
            (i < 2 ^ 64 → shown = r) ∧ Wire.decode shown.body = .ok n ∧
            view w s id = .ok ⟨id, shown.uuid, n, shown.error⟩) ∧
    ∀ payload, ((∃ topic, payload ∈ s.waiting topic) ∨ ∃ r ∈ s.records, r.body = payload) →
      ∀ es a, (Dispatch.dispatch payload).Unfolds es a →
        (∀ p, a ≠ .error (.unreadable p)) ∧ ∀ reason, a ≠ .error (.invalid reason) := by
  intro s
  have hs : Sound s := empty_sound.run sub ops
  refine ⟨hs, records_run sub s, fun w id => ⟨fun e he => view_of_fault he s, fun a ha => ?_⟩, ?_⟩
  · refine ⟨hs.view_notFound_iff ha, fun i r hr hid => ?_⟩
    subst hid
    obtain ⟨shown, n, hfind, hmem, hid, hdecode, hview⟩ := hs.view_of_mem (List.mem_of_getElem? hr) ha
    refine ⟨shown, n, hmem, hid, fun hi => ?_, hdecode, hview⟩
    exact Option.some.inj (hfind.symm.trans (hs.find_of_get hr hi))
  · rintro payload (⟨topic, hp⟩ | ⟨r, hr, rfl⟩) es a h
    · obtain ⟨n, hdecode, hn⟩ := hs.queued topic payload hp
      exact Dispatch.dispatch_accepts hdecode hn h
    · obtain ⟨n, hdecode, hn, -⟩ := hs.recorded r hr
      exact Dispatch.dispatch_accepts hdecode hn h

/-- One channel is found and every marker is free, but nothing can be delivered. -/
def unkind : Surroundings := fun _ c =>
  match c with
  | .channelsWithIds _ | .channelsInGroups _ => .ok [(⟨7, .email, "ops@example.com", "ops"⟩ : Channel)]
  | .readMarker _ => .ok (none : Option Octets)
  | .keepMarker _ _ _ | .enqueue _ _ => .ok ()
  | .recordFailure d => .ok (⟨0, d.uuid, d.body, d.error, .epoch⟩ : FailureRecord)
  | .loadFailure _ => .ok (none : Option FailureRecord)
  | _ => .error "out of order"

/-- A request for those on duty. -/
def toOps : Request :=
  ⟨"a", "Payment", "", ["ops"], some ⟨"approved", "EUR", "ann", "bob", "transfer", 1, 100⟩⟩

/-- A notification fails twice and waits again. -/
def laps : List (Operation × Surroundings) :=
  [(.create toOps, unkind), (.dispatchNext, unkind), (.redrive 0, unkind), (.requeue 1, unkind)]

theorem circulation_sound_unkind :
    let s := run ⟨"n", 1000⟩ (Stores.ofChannels []) laps
    (∃ n : Notification, view unkind s 2 = .ok ⟨2, "a", n, "channel 7 (email): out of order"⟩) ∧
    (∃ reason, view unkind s 3 = .error (.notFound reason)) ∧
    ∃ payload ∈ s.waiting "n", ∀ es a, (Dispatch.dispatch payload).Unfolds es a →
      ∀ p, a ≠ .error (.unreadable p) := by
  intro s
  obtain ⟨-, -, hview, hdispatch⟩ := circulation_sound ⟨"n", 1000⟩ laps
  have hsecond : s.records[1]?.map (fun r => (r.id, r.uuid, r.error)) =
      some (2, "a", "channel 7 (email): out of order") := by decide +kernel
  have hnever : ∀ r ∈ s.records, r.id ≠ 3 := by decide +kernel
  have hwaits : (s.waiting "n").length = 1 := by decide +kernel
  refine ⟨?_, ((hview unkind 3).2 none rfl).1.mpr hnever, ?_⟩
  · obtain ⟨⟨id, uuid, body, error, moment⟩, hr, he⟩ := Option.map_eq_some_iff.mp hsecond
    cases he
    obtain ⟨shown, n, -, -, hshown, -, hn⟩ := ((hview unkind 2).2 none rfl).2 1 _ hr rfl
    obtain rfl := hshown (by decide)
    exact ⟨n, hn⟩
  · obtain ⟨payload, hpayload⟩ := List.length_eq_one_iff.mp hwaits
    have hmem : payload ∈ s.waiting "n" := by simp [hpayload]
    exact ⟨payload, hmem, fun es a h => (hdispatch payload (.inl ⟨_, hmem⟩) es a h).1⟩

end Circulation

end Courier
