import Courier.Proofs.Happenings
import Courier.Proofs.RetryChain

/-!
# The retry gate

When no channel accepts a notification, the counter that it carries decides what becomes of it. The counter comes from
the queue and can be any number. A negative one is turned away before anything is delivered, one with an attempt left is
written down one higher, and every other one is the last (`unaccepted_cases`). A dispatch that ends with an error has
written nothing (`written_of_error`), so it leaves the failure records as they were (`RecordsOf.of_happen`).
-/

namespace Courier

open Exchange

variable {σ ρ : Type}

/-- Failure records are part of a state, and only a record that is written down changes them. -/
structure RecordsOf (answer : Plan.Responder σ) (records : σ → ρ) : Prop where
  spared : ∀ c s, (∀ d, c ≠ .recordFailure d) → records (answer c s).2 = records s
  /-- A record that is refused is not stored. -/
  refused : ∀ d s e, (answer (.recordFailure d) s).1 = .error e → records (answer (.recordFailure d) s).2 = records s

/-- Exchanges that write nothing down leave the records alone. -/
theorem RecordsOf.of_happen {answer : Plan.Responder σ} {records : σ → ρ} (h : RecordsOf answer records)
    {es : List Exchange} {s t : σ} (hes : Happen answer es s t) (hwritten : es.filterMap written? = []) :
    records t = records s := by
  refine hes.keeps (I := fun u => records u = records s) (fun x hx u hreply hu => ?_) rfl
  obtain ⟨c, r⟩ := x
  have hnone : written? ⟨c, r⟩ = none := List.filterMap_eq_nil_iff.mp hwritten _ hx
  cases c with
  | recordFailure d =>
    cases r with
    | error e => exact (h.refused d u e hreply).trans hu
    | ok r => cases hnone
  | _ =>
    refine (h.spared _ u fun d hd => ?_).trans hu
    cases hd

namespace Dispatch

/-! ## Nothing is accepted -/

/-- Any plan can go through failures only. -/
theorem exists_unfolds_unaccepted {α : Type} (p : Plan α) :
    ∃ es a, p.Unfolds es a ∧ ∀ x ∈ es, x.isAccepted = false := by
  refine ⟨_, _, p.unfolds_run (fun _ s => (.error "", s)) (), ?_⟩
  refine Plan.exchanges_of_answers (I := fun _ => True) (fun c s _ => ⟨?_, trivial⟩) p trivial
  cases c <;> rfl

/-- The counter below which an attempt is left, as a number. -/
theorem attempts_left_iff {n : Notification} :
    ¬ maxRetries - 1 ≤ n.retries ↔ n.retries.toInt ≤ maxRetries.toInt - 2 := by
  have hmax : maxRetries.toInt = 3 := by decide
  have hlast : (maxRetries - 1).toInt = 2 := by decide
  rw [Int64.le_iff_toInt_le, hlast, hmax]
  omega

/-- What becomes of a notification with a counter that is not negative when no channel accepts it. -/
theorem unaccepted_cases {n : Notification} (hn : 0 ≤ n.retries) {es : List Exchange} {a : Except RelayError Outcome}
    (h : (deliver n).Unfolds es a) (hnone : ∀ x ∈ es, x.isAccepted = false) :
    ∃ rs xs ys, es = xs ++ ys ∧ xs.Perm (Call.exchanges (deliveries n) rs) ∧
      ((n.retries.toInt ≤ maxRetries.toInt - 2 ∧ (again n).retries.toInt = n.retries.toInt + 1 ∧
          ∃ reply, ys = [⟨.recordFailure
              ⟨n.uuid, Wire.encode (again n), report n (Call.exchanges (deliveries n) rs)⟩, reply⟩] ∧
            (∀ e, reply = .error e → a = .error (.unrecorded e)) ∧
            ∀ r : FailureRecord, reply = .ok r → a = .ok (.retryRecorded (again n).retries r.id)) ∨
        (maxRetries.toInt - 1 ≤ n.retries.toInt ∧ ys = [] ∧
          a = .error (.exhausted n.uuid n.retries (report n (Call.exchanges (deliveries n) rs))))) := by
  obtain ⟨rs, xs, ys, rfl, hperm, hys⟩ := deliver_unfolds_iff.mp h
  have hanswers : ∀ x ∈ Call.exchanges (deliveries n) rs, x.isAccepted = false := by
    intro x hx
    exact hnone x (List.mem_append_left _ (hperm.symm.subset hx))
  refine ⟨rs, xs, ys, rfl, hperm, ?_⟩
  cases hys with
  | delivered hacc => exact absurd hacc (not_exists_isAccepted hanswers)
  | exhausted _ hlast =>
    right
    have hnot := mt attempts_left_iff.mpr (not_not_intro hlast)
    exact ⟨by omega, rfl, rfl⟩
  | recorded _ hleft r =>
    left
    refine ⟨attempts_left_iff.mp hleft, (toInt_again hn hleft).2, .ok r, rfl, nofun, ?_⟩
    rintro _ ⟨⟩
    rfl
  | unrecorded _ hleft e =>
    left
    refine ⟨attempts_left_iff.mp hleft, (toInt_again hn hleft).2, .error e, rfl, ?_, ?_⟩
    · rintro _ ⟨⟩
      rfl
    · rintro _ ⟨⟩

/-! ## Errors -/

/-- A dispatch that ends with an error has written nothing down. -/
theorem written_of_error {payload : Octets} {es : List Exchange} {e : RelayError}
    (h : (dispatch payload).Unfolds es (.error e)) : es.filterMap written? = [] := by
  cases hdecode : (Wire.decode payload : Except Json.Problem Notification) with
  | error p =>
    rw [dispatch_of_unreadable hdecode] at h
    rw [(Plan.unfolds_done_iff.mp h).1]
    rfl
  | ok n =>
    by_cases hn : n.retries < 0
    · obtain ⟨reason, hreason⟩ := dispatch_of_negative hdecode hn
      rw [hreason] at h
      rw [(Plan.unfolds_done_iff.mp h).1]
      rfl
    · rw [dispatch_of_decode hdecode (Int64.not_lt.mp hn)] at h
      obtain ⟨rs, xs, ys, rfl, hperm, hys⟩ := deliver_unfolds_iff.mp h
      rw [List.filterMap_append, written_of_deliveries (isDelivery_of_perm hperm), List.nil_append]
      cases hys <;> rfl

/-- **What becomes of a notification that no channel accepts.** Let a payload hold a notification with any counter, and
let no delivery be accepted. With a negative counter, nothing is called and the notification is turned away. Otherwise
each delivery is attempted. With a counter that is at least two below `maxRetries`, one record is then written down, or
refused: under the name of the notification, with what every channel complained about, and with the notification as it
was but for its counter, which is one higher. The result tells the new counter and the id of the record, or that it was
refused. With any higher counter, nothing more is called, and the result is that no attempt is left, with the name, the
counter as it was and what every channel complained about. And a dispatch of any payload at all that ends with an error
leaves the failure records as they were. -/
theorem retry_gate {answer : Plan.Responder σ} {records : σ → ρ} (hrecords : RecordsOf answer records)
    (payload : Octets) :
    (maxRetries - 1).toInt = maxRetries.toInt - 1 ∧
    (∀ n : Notification, Wire.decode payload = .ok n →
      (∃ es a, (dispatch payload).Unfolds es a ∧ ∀ x ∈ es, x.isAccepted = false) ∧
      ∀ es a, (dispatch payload).Unfolds es a → (∀ x ∈ es, x.isAccepted = false) →
        (n.retries.toInt < 0 → es = [] ∧ ∃ reason, a = .error (.invalid reason)) ∧
        (0 ≤ n.retries.toInt → ∃ rs xs ys, es = xs ++ ys ∧ xs.Perm (Call.exchanges (deliveries n) rs) ∧
          (n.retries.toInt ≤ maxRetries.toInt - 2 → (again n).retries.toInt = n.retries.toInt + 1 ∧
            ∃ reply, ys = [⟨.recordFailure
                ⟨n.uuid, Wire.encode (again n), report n (Call.exchanges (deliveries n) rs)⟩, reply⟩] ∧
              (∀ e, reply = .error e → a = .error (.unrecorded e)) ∧
              ∀ r : FailureRecord, reply = .ok r → a = .ok (.retryRecorded (again n).retries r.id)) ∧
          (maxRetries.toInt - 1 ≤ n.retries.toInt → ys = [] ∧
            a = .error (.exhausted n.uuid n.retries (report n (Call.exchanges (deliveries n) rs)))))) ∧
    ∀ es e s t, (dispatch payload).Unfolds es (.error e) → Happen answer es s t → records t = records s := by
  refine ⟨by decide, fun n hdecode => ⟨exists_unfolds_unaccepted _, fun es a h hnone => ⟨fun hneg => ?_, fun hn => ?_⟩⟩,
    fun es e s t h hes => hrecords.of_happen hes (written_of_error h)⟩
  · obtain ⟨reason, hreason⟩ := dispatch_of_negative hdecode (Int64.lt_iff_toInt_lt.mpr hneg)
    rw [hreason] at h
    obtain ⟨rfl, rfl⟩ := Plan.unfolds_done_iff.mp h
    exact ⟨rfl, reason, rfl⟩
  · have hnonneg : 0 ≤ n.retries := Int64.le_iff_toInt_le.mpr hn
    rw [dispatch_of_decode hdecode hnonneg] at h
    obtain ⟨rs, xs, ys, hes, hperm, ⟨hleft, hnext, hys⟩ | ⟨hlast, hys⟩⟩ := unaccepted_cases hnonneg h hnone
    · refine ⟨rs, xs, ys, hes, hperm, fun _ => ⟨hnext, hys⟩, fun hlast => ?_⟩
      omega
    · refine ⟨rs, xs, ys, hes, hperm, fun hleft => ?_, fun _ => hys⟩
      omega

theorem gloomy_recordsOf : RecordsOf gloomy fun s : Memory.Records => s where
  spared c s hc := by
    cases c with
    | recordFailure d => exact absurd rfl (hc d)
    | _ => rfl
  refused d s e h := by cases h

/-- The last attempt at a notification, and one that is far beyond the last: both end without a record. -/
theorem retry_gate_gloomy :
    RecordsOf gloomy (fun s : Memory.Records => s) ∧
      (∃ text, (dispatch (Wire.encode (threefold 2))).run gloomy [] = (.error (.exhausted "a" 2 text), [])) ∧
      ∃ text, (dispatch (Wire.encode (threefold Int64.maxValue))).run gloomy [] =
        (.error (.exhausted "a" Int64.maxValue text), []) := by
  have hlast : ∀ r : Int64, 2 ≤ r.toInt →
      ∃ text, (dispatch (Wire.encode (threefold r))).run gloomy [] = (.error (.exhausted "a" r text), []) := by
    intro r hr
    have hmax : maxRetries.toInt = 3 := by decide
    obtain ⟨-, hgate, hkept⟩ := retry_gate gloomy_recordsOf (Wire.encode (threefold r))
    have hunfolds := (dispatch (Wire.encode (threefold r))).unfolds_run gloomy []
    have hnone : ∀ x ∈ (dispatch (Wire.encode (threefold r))).exchanges gloomy [], x.isAccepted = false := by
      refine Plan.exchanges_of_answers (I := fun _ => True) (fun c s _ => ⟨?_, trivial⟩) _ trivial
      cases c <;> rfl
    obtain ⟨rs, _, _, -, -, -, hend⟩ :=
      ((hgate _ (decode_encode_notification _)).2 _ _ hunfolds hnone).2 (show 0 ≤ r.toInt by omega)
    have hresult := (hend (show maxRetries.toInt - 1 ≤ r.toInt by omega)).2
    refine ⟨report (threefold r) (Call.exchanges (deliveries (threefold r)) rs), Prod.ext hresult ?_⟩
    rw [hresult] at hunfolds
    exact hkept _ _ _ _ hunfolds (happen_run gloomy _ [])
  exact ⟨gloomy_recordsOf, hlast 2 (by decide), hlast Int64.maxValue (by decide)⟩

end Dispatch

end Courier
