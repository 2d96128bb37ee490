import Courier.Memory.Records
import Courier.Proofs.Deliveries

/-!
# Chains of retries

A dispatch that fails writes its notification down with a higher counter, and whoever tries again dispatches what was
written down. `Chain` is the list of rounds of somebody who does so until there is nothing left to do. Every round of a
readable notification ends the chain or leaves one record, with the counter one higher and all else as before
(`round_cases`). As the counter of a record stays below `maxRetries`, every chain ends (`retry_chain_ends`).
-/

namespace Courier

/-- What was written down. -/
def Exchange.written? : Exchange → Option FailureDraft
  | ⟨.recordFailure d, .ok _⟩ => some d
  | _ => none

namespace Dispatch

/-- One dispatch: its exchanges and how it ended. -/
structure Round where
  exchanges : List Exchange
  result : Except RelayError Outcome

namespace Round

/-- The records that were written in a round. -/
def written (x : Round) : List FailureDraft := x.exchanges.filterMap Exchange.written?

/-- The attempt was written down for another one. -/
def IsRetry (x : Round) : Prop := ∃ retries record, x.result = .ok (.retryRecorded retries record)

/-- The notification was delivered, or no attempt was left, or the attempt could not be written down. -/
def IsFinal (x : Round) : Prop :=
  (∃ succeeded failed, x.result = .ok (.delivered succeeded failed)) ∨
    (∃ uuid retries errors, x.result = .error (.exhausted uuid retries errors)) ∨
    ∃ reason, x.result = .error (.unrecorded reason)

theorem IsFinal.not_isRetry {x : Round} (h : x.IsFinal) : ¬ x.IsRetry := by
  rintro ⟨retries, record, hr⟩
  rcases h with ⟨s, f, h⟩ | ⟨u, r, e, h⟩ | ⟨e, h⟩ <;> rw [hr] at h <;> cases h

end Round

variable {σ : Type}

/-- The dispatch of a payload by a responder. -/
def round (answer : Plan.Responder σ) (payload : Octets) (s : σ) : Round :=
  ⟨(dispatch payload).exchanges answer s, ((dispatch payload).run answer s).1⟩

/-- The rounds of dispatching a payload and, as long as the attempt was written down, what was written last. -/
inductive Chain (answer : Plan.Responder σ) : Octets → σ → List Round → Prop
  | last {payload : Octets} {s : σ} (h : ¬ (round answer payload s).IsRetry) :
    Chain answer payload s [round answer payload s]
  | again {payload : Octets} {s : σ} {d : FailureDraft} {rounds : List Round} (h : (round answer payload s).IsRetry)
    (hd : (round answer payload s).written.getLast? = some d)
    (rest : Chain answer d.body ((dispatch payload).run answer s).2 rounds) :
    Chain answer payload s (round answer payload s :: rounds)

/-- A payload and a responder determine the chain. -/
theorem Chain.unique {answer : Plan.Responder σ} {payload : Octets} {s : σ} {rounds others : List Round}
    (h : Chain answer payload s rounds) (h' : Chain answer payload s others) : others = rounds := by
  induction h generalizing others with
  | last h =>
    cases h' with
    | last _ => rfl
    | again h' _ _ => exact absurd h' h
  | again h hd _ ih =>
    cases h' with
    | last h' => exact absurd h h'
    | again _ hd' rest =>
      rw [hd] at hd'
      cases hd'
      rw [ih rest]

/-! ## One round -/

theorem written_of_deliveries {es : List Exchange} (h : ∀ x ∈ es, x.call.isDelivery = true) :
    es.filterMap Exchange.written? = [] := by
  refine List.filterMap_eq_nil_iff.mpr fun x hx => ?_
  obtain ⟨c, r⟩ := x
  have hc := h _ hx
  cases c <;> first | rfl | cases hc

/-- A round ends the chain and leaves nothing, or leaves the notification with its counter one higher. -/
theorem round_cases {payload : Octets} {n : Notification} (h : Wire.decode payload = .ok n) (hn : 0 ≤ n.retries)
    (answer : Plan.Responder σ) (s : σ) :
    ((round answer payload s).IsFinal ∧ (round answer payload s).written = []) ∨
      ((round answer payload s).IsRetry ∧ ¬ maxRetries - 1 ≤ n.retries ∧
        ∃ d, (round answer payload s).written = [d] ∧ Wire.decode d.body = .ok (again n)) := by
  have hx : (deliver n).Unfolds (round answer payload s).exchanges (round answer payload s).result := by
    rw [← dispatch_of_decode h hn]
    exact (dispatch payload).unfolds_run answer s
  generalize round answer payload s = x at hx ⊢
  obtain ⟨es, a⟩ := x
  obtain ⟨rs, xs, ys, rfl, hperm, hys⟩ := deliver_unfolds_iff.mp hx
  have hxs : xs.filterMap Exchange.written? = [] := written_of_deliveries (isDelivery_of_perm hperm)
  have hwritten : (⟨xs ++ ys, a⟩ : Round).written = ys.filterMap Exchange.written? := by
    rw [Round.written, List.filterMap_append, hxs, List.nil_append]
  rw [hwritten]
  cases hys with
  | delivered hacc => exact .inl ⟨.inl ⟨_, _, rfl⟩, rfl⟩
  | exhausted hnone hlast => exact .inl ⟨.inr (.inl ⟨_, _, _, rfl⟩), rfl⟩
  | unrecorded hnone hleft e => exact .inl ⟨.inr (.inr ⟨_, rfl⟩), rfl⟩
  | recorded hnone hleft r => exact .inr ⟨⟨_, _, rfl⟩, hleft, _, rfl, decode_encode_notification _⟩

/-! ## Whole chains -/

/-- The rounds of a notification: the last one is final, and every other one leaves one record, with which the rest
goes on. -/
inductive Descends : Notification → List Round → Prop
  | final {n : Notification} {x : Round} (hx : x.IsFinal) (hw : x.written = []) : Descends n [x]
  | again {n : Notification} {x : Round} {d : FailureDraft} {rounds : List Round} (hleft : ¬ maxRetries - 1 ≤ n.retries)
    (hw : x.written = [d]) (hd : Wire.decode d.body = .ok (again n)) (rest : Descends (again n) rounds) :
    Descends n (x :: rounds)

theorem Chain.descends {answer : Plan.Responder σ} {payload : Octets} {s : σ} {rounds : List Round}
    (h : Chain answer payload s rounds) {n : Notification} (hdecode : Wire.decode payload = .ok n)
    (hn : 0 ≤ n.retries) : Descends n rounds := by
  induction h generalizing n with
  | @last payload s h =>
    rcases round_cases hdecode hn answer s with ⟨hfinal, hw⟩ | ⟨hretry, -⟩
    · exact .final hfinal hw
    · exact absurd hretry h
  | @again payload s d rounds h hd rest ih =>
    rcases round_cases hdecode hn answer s with ⟨hfinal, -⟩ | ⟨-, hleft, d', hw, hd'⟩
    · exact absurd h hfinal.not_isRetry
    · rw [hw] at hd
      cases hd
      exact .again hleft hw hd' (ih hd' (again_nonneg hn hleft))

/-- The number of attempts that are left bounds the chain, so there is one. -/
theorem exists_chain (answer : Plan.Responder σ) (k : Nat) :
    ∀ {payload : Octets} {n : Notification} {s : σ}, Wire.decode payload = .ok n → 0 ≤ n.retries →
      maxRetries.toInt - 1 - n.retries.toInt ≤ k → ∃ rounds, Chain answer payload s rounds := by
  -- a round that leaves a record uses one of the attempts up
  induction k with
  | zero =>
    intro payload n s hdecode hn hk
    rcases round_cases hdecode hn answer s with ⟨hfinal, -⟩ | ⟨-, hleft, -⟩
    · exact ⟨_, .last hfinal.not_isRetry⟩
    · obtain ⟨hlt, -⟩ := toInt_again hn hleft
      omega
  | succ k ih =>
    intro payload n s hdecode hn hk
    rcases round_cases hdecode hn answer s with ⟨hfinal, -⟩ | ⟨hretry, hleft, d, hw, hd⟩
    · exact ⟨_, .last hfinal.not_isRetry⟩
    · obtain ⟨-, hnext⟩ := toInt_again hn hleft
      obtain ⟨rounds, hrounds⟩ := ih (s := ((dispatch payload).run answer s).2) hd (again_nonneg hn hleft) (by omega)
      exact ⟨_, .again hretry (by rw [hw]; rfl) hrounds⟩

namespace Descends

variable {n : Notification} {rounds : List Round}

/-- The records that were written in all rounds. -/
def records (rounds : List Round) : List FailureDraft := rounds.flatMap Round.written

theorem length_le (h : Descends n rounds) (hn : 0 ≤ n.retries) :
    (rounds.length : Int) ≤ max 1 (maxRetries.toInt - n.retries.toInt) := by
  induction h with
  | final => simp
  | again hleft _ _ _ ih =>
    obtain ⟨hlt, hnext⟩ := toInt_again hn hleft
    have hrest := ih (again_nonneg hn hleft)
    rw [List.length_cons]
    omega

theorem length_records_le (h : Descends n rounds) (hn : 0 ≤ n.retries) :
    ((records rounds).length : Int) ≤ max 0 (maxRetries.toInt - 1 - n.retries.toInt) := by
  induction h with
  | final _ hw => simp [records, hw]
  | again hleft hw _ _ ih =>
    obtain ⟨hlt, hnext⟩ := toInt_again hn hleft
    have hrest := ih (again_nonneg hn hleft)
    simp only [records, List.flatMap_cons, hw, List.length_append, List.length_singleton] at hrest ⊢
    omega

theorem exists_last (h : Descends n rounds) : ∃ x, rounds.getLast? = some x ∧ x.IsFinal := by
  induction h with
  | final hx => exact ⟨_, rfl, hx⟩
  | again _ _ _ _ ih =>
    obtain ⟨x, hlast, hx⟩ := ih
    exact ⟨x, by rw [List.getLast?_cons, hlast]; rfl, hx⟩

/-- The records hold the notification with the counters that follow its own. -/
theorem records_get (h : Descends n rounds) (hn : 0 ≤ n.retries) :
    ∀ (i : Nat) (d : FailureDraft), (records rounds)[i]? = some d →
      ∃ retries : Int64, Wire.decode d.body = .ok { n with retries := retries } ∧
        retries.toInt = n.retries.toInt + (i + 1 : Nat) ∧ retries.toInt < maxRetries.toInt := by
  induction h with
  | final _ hw =>
    intro i d hd
    simp [records, hw] at hd
  | @again n x d rounds hleft hw hd rest ih =>
    obtain ⟨hlt, hnext⟩ := toInt_again hn hleft
    intro i d' hd'
    simp only [records, List.flatMap_cons, hw, List.cons_append, List.nil_append] at hd'
    cases i with
    | zero =>
      cases hd'
      exact ⟨(Dispatch.again n).retries, hd, by simpa using hnext, by omega⟩
    | succ i =>
      obtain ⟨retries, hdecode, hcount, hmax⟩ := ih (again_nonneg hn hleft) i d' hd'
      exact ⟨retries, hdecode, by push_cast; omega, hmax⟩

end Descends

/-- **Every chain of retries ends**, whatever the replies to its rounds. A notification with a counter that is not
negative is dispatched at most as often as its counter is below `maxRetries`, and at least once. It leaves one record
less than that. The last round delivers it, has no attempt left, or cannot write it down. The records hold the
notification itself, except that their counters are those that follow its own, and these stay below `maxRetries`. -/
theorem retry_chain_ends (answer : Plan.Responder σ) (s : σ) {payload : Octets} {n : Notification}
    (hdecode : Wire.decode payload = .ok n) (hn : 0 ≤ n.retries) :
    ∃ rounds, Chain answer payload s rounds ∧ (∀ others, Chain answer payload s others → others = rounds) ∧
      (rounds.length : Int) ≤ max 1 (maxRetries.toInt - n.retries.toInt) ∧
      ((Descends.records rounds).length : Int) ≤ max 0 (maxRetries.toInt - 1 - n.retries.toInt) ∧
      (∃ x, rounds.getLast? = some x ∧ x.IsFinal) ∧
      ∀ (i : Nat) (d : FailureDraft), (Descends.records rounds)[i]? = some d →
        ∃ retries : Int64, Wire.decode d.body = .ok { n with retries := retries } ∧
          retries.toInt = n.retries.toInt + (i + 1 : Nat) ∧ retries.toInt < maxRetries.toInt := by
  obtain ⟨rounds, hchain⟩ := exists_chain answer (maxRetries.toInt - 1 - n.retries.toInt).toNat (s := s) hdecode hn
    (Int.self_le_toNat _)
  have hdescends := hchain.descends hdecode hn
  exact ⟨rounds, hchain, fun others h => hchain.unique h, hdescends.length_le hn, hdescends.length_records_le hn,
    hdescends.exists_last, hdescends.records_get hn⟩

/-- Nothing is accepted, and every record is written down. -/
def gloomy : Plan.Responder Memory.Records
  | .recordFailure d, s => (.ok (s.add (fun _ => .epoch) d).1, (s.add (fun _ => .epoch) d).2)
  | .post _ _, s => (.ok (500 : Nat), s)
  | _, s => (.error "mailbox full", s)

theorem retry_chain_ends_gloomy :
    Wire.decode (Wire.encode (threefold 0)) = .ok (threefold 0) ∧ 0 ≤ (threefold 0).retries ∧
      ∃ rounds, Chain gloomy (Wire.encode (threefold 0)) [] rounds ∧ rounds.length ≤ 3 ∧
        (Descends.records rounds).length ≤ 2 ∧ ∃ x, rounds.getLast? = some x ∧ x.IsFinal := by
  refine ⟨decode_encode_notification _, by decide, ?_⟩
  obtain ⟨rounds, hchain, -, hlength, hrecords, hlast, -⟩ :=
    retry_chain_ends gloomy [] (decode_encode_notification (threefold 0)) (by decide)
  have hmax : maxRetries.toInt = 3 := by decide
  have hzero : (threefold 0).retries.toInt = 0 := by decide
  rw [hmax, hzero] at hlength hrecords
  exact ⟨rounds, hchain, by omega, by omega, hlast⟩

end Dispatch

end Courier
