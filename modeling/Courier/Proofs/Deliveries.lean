import Courier.Dispatch
import Courier.Proofs.Unfolding
import Courier.Proofs.WireRoundTrip

/-!
# Deliveries

A dispatch makes one delivery for every channel of its notification, all at the same time, and then counts. What it does
after the deliveries (`conclude`) follows from the answers alone: `Concludes` lists the ways to end
(`conclude_unfolds_iff`), and with it all that a dispatch can go through is known (`deliver_unfolds_iff`).
`dispatch_tally` states it for every assignment of replies to the channels and every order in which they come.
-/

namespace Courier

namespace Exchange

/-- A delivery that was accepted: an email that was taken, or a post that was answered with a status below 300. -/
def isAccepted : Exchange → Bool
  | ⟨.sendEmail _, .ok _⟩ => true
  | ⟨.post _ _, .ok (status : Nat)⟩ => status < 300
  | _ => false

/-- Why a delivery was not accepted. -/
def obstacle : Exchange → String
  | ⟨_, .error e⟩ => e
  | ⟨.post _ _, .ok (status : Nat)⟩ => "webhook returned status " ++ Decimal.ofNat status
  | _ => ""

theorem not_exists_isAccepted {answers : List Exchange} (h : ∀ x ∈ answers, x.isAccepted = false) :
    ¬ ∃ x ∈ answers, x.isAccepted = true := by
  rintro ⟨x, hx, hacc⟩
  rw [h x hx] at hacc
  cases hacc

end Exchange

/-- A call that delivers something. -/
def Call.isDelivery : Call → Bool
  | .sendEmail _ | .post _ _ => true
  | _ => false

open Exchange

namespace Dispatch

/-- The deliveries of a notification in the order of its channels, which is that of their keys. -/
abbrev deliveries (n : Notification) : List Call := n.channels.values.map (delivery n)

theorem isDelivery_delivery (n : Notification) (c : Channel) : (delivery n c).isDelivery = true := by
  unfold delivery
  split <;> rfl

theorem isDelivery_of_mem_deliveries {n : Notification} {c : Call} (h : c ∈ deliveries n) : c.isDelivery = true := by
  obtain ⟨ch, -, rfl⟩ := List.mem_map.mp h
  exact isDelivery_delivery n ch

/-- Only deliveries have been answered when the deliveries of a notification have been. -/
theorem isDelivery_of_perm {n : Notification} {rs : Call.Replies (deliveries n)} {xs : List Exchange}
    (h : xs.Perm (Call.exchanges (deliveries n) rs)) : ∀ x ∈ xs, x.call.isDelivery = true := by
  intro x hx
  refine isDelivery_of_mem_deliveries (n := n) ?_
  rw [← Call.map_call_exchanges (deliveries n) rs]
  exact List.mem_map_of_mem (h.subset hx)

/-- What is said about the channels when none has accepted: each one with its obstacle, in their order. -/
def report (n : Notification) (answers : List Exchange) : String :=
  if n.channels.values.isEmpty then "no channels resolved"
  else ", ".intercalate ((n.channels.values.zip answers).map fun e =>
    "channel " ++ Decimal.ofInt e.1.id.toInt ++ " (" ++ e.1.platform.name ++ "): " ++ e.2.obstacle)

/-! ## Complaints -/

/-- A delivery is refused when it is not accepted. -/
theorem refusal?_eq {c : Call} (hc : c.isDelivery = true) (r : c.Reply) :
    refusal? c r = if (⟨c, r⟩ : Exchange).isAccepted then none else some (⟨c, r⟩ : Exchange).obstacle := by
  cases c with
  | sendEmail email => rcases r with e | ⟨⟩ <;> rfl
  | post url body =>
    have hstatus : ∀ status : Nat, refusal? (.post url body) (.ok status) =
        if decide (status < 300) then none else some ("webhook returned status " ++ Decimal.ofNat status) := by
      intro status
      by_cases h : status < 300 <;> simp [refusal?, h]
    rcases r with e | status
    · rfl
    · exact hstatus status
  | _ => cases hc

/-- The complaints are those about the deliveries that were not accepted. -/
theorem complaints_eq (n : Notification) :
    ∀ (cs : List Channel) (rs : Call.Replies (cs.map (delivery n))),
      complaints n cs rs = ((cs.zip (Call.exchanges _ rs)).filter fun e => !e.2.isAccepted).map fun e =>
        complaint e.1 e.2.obstacle
  | [], _ => rfl
  | c :: cs, rs => by
    have hrest := complaints_eq n cs rs.2
    have hexchanges : Call.exchanges ((c :: cs).map (delivery n)) rs =
        ⟨delivery n c, rs.1⟩ :: Call.exchanges (cs.map (delivery n)) rs.2 := rfl
    rw [hexchanges]
    simp only [complaints, refusal?_eq (isDelivery_delivery n c)]
    by_cases h : (⟨delivery n c, rs.1⟩ : Exchange).isAccepted = true
    · simp [h, hrest]
    · simp [h, hrest]

theorem length_complaints (n : Notification) (cs : List Channel) (rs : Call.Replies (cs.map (delivery n))) :
    (complaints n cs rs).length = (Call.exchanges _ rs).countP fun x => !x.isAccepted := by
  have hlength : (Call.exchanges _ rs).length ≤ cs.length := by
    rw [Call.length_exchanges, List.length_map]
  rw [complaints_eq, List.length_map, ← List.countP_eq_length_filter]
  conv_rhs => rw [← List.map_snd_zip hlength, List.countP_map]
  rfl

/-- There are at most as many complaints as channels, so the number of the others is their difference. -/
theorem length_complaints_add (n : Notification) (cs : List Channel) (rs : Call.Replies (cs.map (delivery n))) :
    (Call.exchanges _ rs).countP isAccepted + (complaints n cs rs).length = cs.length := by
  have hsplit := List.length_eq_countP_add_countP isAccepted (l := Call.exchanges _ rs)
  rw [Call.length_exchanges, List.length_map] at hsplit
  simpa [length_complaints] using hsplit.symm

theorem summary_of_ne_nil {es : List String} (h : es ≠ []) : summary es = ", ".intercalate es := by
  cases es with
  | nil => exact absurd rfl h
  | cons e es => rfl

/-- When nothing was accepted, the complaints are about every channel. -/
theorem summary_complaints {n : Notification} {rs : Call.Replies (deliveries n)}
    (h : ∀ x ∈ Call.exchanges (deliveries n) rs, x.isAccepted = false) :
    summary (complaints n n.channels.values rs) = report n (Call.exchanges (deliveries n) rs) := by
  have hall : (n.channels.values.zip (Call.exchanges (deliveries n) rs)).filter (fun e => !e.2.isAccepted) =
      n.channels.values.zip (Call.exchanges (deliveries n) rs) := by
    refine List.filter_eq_self.mpr fun e he => ?_
    rw [h _ (List.of_mem_zip he).2]
    rfl
  have hcomplaints : complaints n n.channels.values rs =
      ((n.channels.values.zip (Call.exchanges (deliveries n) rs)).filter fun e => !e.2.isAccepted).map fun e =>
        complaint e.1 e.2.obstacle := complaints_eq n _ rs
  rw [hall] at hcomplaints
  have hlength := length_complaints_add n n.channels.values rs
  rw [List.countP_eq_zero.mpr fun x hx => ne_true_of_eq_false (h x hx), Nat.zero_add] at hlength
  unfold report
  by_cases hv : n.channels.values.isEmpty = true
  · have hnone : (complaints n n.channels.values rs).length = 0 :=
      hlength.trans (List.isEmpty_iff_length_eq_zero.mp hv)
    rw [if_pos hv, List.eq_nil_of_length_eq_zero hnone]
    rfl
  · have hne : complaints n n.channels.values rs ≠ [] := by
      intro hnil
      rw [hnil] at hlength
      exact hv (List.isEmpty_iff_length_eq_zero.mpr hlength.symm)
    rw [if_neg hv, summary_of_ne_nil hne, hcomplaints]
    rfl

/-! ## After the deliveries -/

/-- A notification as it is written down for another attempt. -/
def again (n : Notification) : Notification := { n with retries := n.retries + 1 }

/-- A counter with an attempt left can be raised. -/
theorem toInt_again {n : Notification} (hn : 0 ≤ n.retries) (hleft : ¬ maxRetries - 1 ≤ n.retries) :
    n.retries.toInt < maxRetries.toInt - 1 ∧ (again n).retries.toInt = n.retries.toInt + 1 := by
  have hmax : maxRetries.toInt = 3 := by decide
  have hlast : (maxRetries - 1).toInt = 2 := by decide
  have hone : (1 : Int64).toInt = 1 := by decide
  rw [Int64.le_iff_toInt_le, hlast] at hleft
  have hnonneg : 0 ≤ n.retries.toInt := Int64.le_iff_toInt_le.mp hn
  refine ⟨by omega, ?_⟩
  rw [again, Int64.toInt_add, hone]
  exact Int.bmod_eq_of_le (by omega) (by omega)

theorem again_nonneg {n : Notification} (hn : 0 ≤ n.retries) (hleft : ¬ maxRetries - 1 ≤ n.retries) :
    0 ≤ (again n).retries := by
  obtain ⟨-, hnext⟩ := toInt_again hn hleft
  have hnonneg : 0 ≤ n.retries.toInt := Int64.le_iff_toInt_le.mp hn
  refine Int64.le_iff_toInt_le.mpr ?_
  rw [hnext]
  exact Int.le_add_one hnonneg

/-- What a dispatch does when all deliveries have been answered. -/
def conclude (n : Notification) (rs : Call.Replies (deliveries n)) : Plan (Except RelayError Outcome) :=
  let failed := complaints n n.channels.values rs
  if failed.length < n.channels.values.length then
    .done (.ok (.delivered (n.channels.values.length - failed.length) failed.length))
  else giveWay n (summary failed)

theorem deliver_eq (n : Notification) : deliver n = .gather (deliveries n) (conclude n) := rfl

/-- The exchanges and the result with which a dispatch can end after its deliveries have been answered. -/
inductive Concludes (n : Notification) (answers : List Exchange) : List Exchange → Except RelayError Outcome → Prop
  | delivered (h : ∃ x ∈ answers, x.isAccepted = true) :
    Concludes n answers [] (.ok (.delivered (answers.countP isAccepted) (answers.countP fun x => !x.isAccepted)))
  | exhausted (h : ∀ x ∈ answers, x.isAccepted = false) (hlast : maxRetries - 1 ≤ n.retries) :
    Concludes n answers [] (.error (.exhausted n.uuid n.retries (report n answers)))
  | recorded (h : ∀ x ∈ answers, x.isAccepted = false) (hleft : ¬ maxRetries - 1 ≤ n.retries) (r : FailureRecord) :
    Concludes n answers [⟨.recordFailure ⟨n.uuid, Wire.encode (again n), report n answers⟩, .ok r⟩]
      (.ok (.retryRecorded (again n).retries r.id))
  | unrecorded (h : ∀ x ∈ answers, x.isAccepted = false) (hleft : ¬ maxRetries - 1 ≤ n.retries) (e : String) :
    Concludes n answers [⟨.recordFailure ⟨n.uuid, Wire.encode (again n), report n answers⟩, .error e⟩]
      (.error (.unrecorded e))

theorem giveWay_unfolds_iff {n : Notification} {answers ys : List Exchange} {a : Except RelayError Outcome}
    (h : ∀ x ∈ answers, x.isAccepted = false) :
    (giveWay n (report n answers)).Unfolds ys a ↔ Concludes n answers ys a := by
  unfold giveWay
  by_cases hlast : maxRetries - 1 ≤ n.retries
  · rw [if_pos hlast, Plan.unfolds_done_iff]
    constructor
    · rintro ⟨rfl, rfl⟩
      exact .exhausted h hlast
    · rintro (hacc | _ | ⟨-, hleft⟩ | ⟨-, hleft⟩)
      · exact absurd hacc (not_exists_isAccepted h)
      · exact ⟨rfl, rfl⟩
      · exact absurd hlast hleft
      · exact absurd hlast hleft
  · rw [if_neg hlast, Plan.unfolds_ask_iff]
    constructor
    · rintro ⟨e | r, ys, rfl, hys⟩
      · obtain ⟨rfl, rfl⟩ := Plan.unfolds_done_iff.mp hys
        exact .unrecorded h hlast e
      · obtain ⟨rfl, rfl⟩ := Plan.unfolds_done_iff.mp hys
        exact .recorded h hlast r
    · rintro (hacc | ⟨-, hlast'⟩ | ⟨-, -, r⟩ | ⟨-, -, e⟩)
      · exact absurd hacc (not_exists_isAccepted h)
      · exact absurd hlast' hlast
      · exact ⟨.ok r, [], rfl, .ended rfl⟩
      · exact ⟨.error e, [], rfl, .ended rfl⟩

/-- What a dispatch does after its deliveries is told by their answers. -/
theorem conclude_unfolds_iff {n : Notification} {rs : Call.Replies (deliveries n)} {ys : List Exchange}
    {a : Except RelayError Outcome} :
    (conclude n rs).Unfolds ys a ↔ Concludes n (Call.exchanges (deliveries n) rs) ys a := by
  have hcount : (Call.exchanges (deliveries n) rs).countP isAccepted + (complaints n n.channels.values rs).length =
      n.channels.values.length := length_complaints_add n _ rs
  -- the number of complaints reaches that of the channels only when nothing was accepted
  by_cases hacc : ∃ x ∈ Call.exchanges (deliveries n) rs, x.isAccepted = true
  · have hpos := List.countP_pos_iff.mpr hacc
    have hconclude : conclude n rs = .done (.ok (.delivered ((Call.exchanges (deliveries n) rs).countP isAccepted)
        ((Call.exchanges (deliveries n) rs).countP fun x => !x.isAccepted))) := by
      simp only [conclude]
      rw [if_pos (by omega), ← length_complaints]
      congr 3
      omega
    rw [hconclude, Plan.unfolds_done_iff]
    constructor
    · rintro ⟨rfl, rfl⟩
      exact .delivered hacc
    · rintro (_ | ⟨h⟩ | ⟨h⟩ | ⟨h⟩)
      · exact ⟨rfl, rfl⟩
      all_goals exact absurd hacc (not_exists_isAccepted h)
  · have hnone : ∀ x ∈ Call.exchanges (deliveries n) rs, x.isAccepted = false := by
      intro x hx
      exact eq_false_of_ne_true fun hx' => hacc ⟨x, hx, hx'⟩
    have hconclude : conclude n rs = giveWay n (report n (Call.exchanges (deliveries n) rs)) := by
      simp only [conclude]
      have hzero := List.countP_eq_zero.mpr fun x hx => ne_true_of_eq_false (hnone x hx)
      rw [if_neg (by omega), summary_complaints hnone]
    rw [hconclude, giveWay_unfolds_iff hnone]

/-- A dispatch makes every delivery once, in any order, and concludes from the answers. -/
theorem deliver_unfolds_iff {n : Notification} {es : List Exchange} {a : Except RelayError Outcome} :
    (deliver n).Unfolds es a ↔ ∃ rs xs ys, es = xs ++ ys ∧ xs.Perm (Call.exchanges (deliveries n) rs) ∧
      Concludes n (Call.exchanges (deliveries n) rs) ys a := by
  simp only [deliver_eq, Plan.unfolds_gather_iff, conclude_unfolds_iff]

/-! ## Payloads -/

theorem dispatch_of_unreadable {payload : Octets} {p : Json.Problem}
    (h : (Wire.decode payload : Except Json.Problem Notification) = .error p) :
    dispatch payload = .done (.error (.unreadable p)) := by
  rw [dispatch, h]

theorem dispatch_of_negative {payload : Octets} {n : Notification} (h : Wire.decode payload = .ok n)
    (hn : n.retries < 0) : ∃ reason, dispatch payload = .done (.error (.invalid reason)) := by
  rw [dispatch, h]
  exact ⟨_, if_pos hn⟩

theorem dispatch_of_decode {payload : Octets} {n : Notification} (h : Wire.decode payload = .ok n)
    (hn : 0 ≤ n.retries) : dispatch payload = deliver n := by
  rw [dispatch, h]
  exact if_neg (Int64.not_lt.mpr hn)

/-! ## The tally -/

/-- The delivery to a channel, with the reply that its key decides. -/
def attempt (n : Notification) (fate : Int64 → (c : Call) → c.Reply) (e : Int64 × Channel) : Exchange :=
  ⟨delivery n e.2, fate e.1 (delivery n e.2)⟩

theorem fated_deliveries (n : Notification) (fate : Int64 → (c : Call) → c.Reply) :
    Plan.fated fate n.channels.keys (deliveries n) = n.channels.entries.map (attempt n fate) := by
  rw [Plan.fated, Keyed.keys, deliveries, Keyed.values, List.map_map, List.zipWith_map, List.zipWith_self]
  rfl

/-- Whatever the order in which the deliveries of a notification are answered, the dispatch goes on as their answers in
the order of the keys tell. -/
theorem settle_deliver (n : Notification) (fate : Int64 → (c : Call) → c.Reply) :
    ∃ rest, (∀ order, order.Perm n.channels.keys → ∃ log,
        (deliver n).settle fate order n.channels.keys = (log, rest) ∧ log.map Prod.fst = order ∧
          log.Perm (n.channels.entries.map fun e => (e.1, attempt n fate e))) ∧
      ∀ ys a, rest.Unfolds ys a ↔ Concludes n (n.channels.entries.map (attempt n fate)) ys a := by
  have hlength : n.channels.keys.length = (deliveries n).length := by
    simp [Keyed.keys, Keyed.values]
  obtain ⟨rs, hrs⟩ := Plan.exists_fated fate n.channels.keys (deliveries n) hlength
  refine ⟨.gather [] fun _ => conclude n rs, fun order horder => ?_, fun ys a => ?_⟩
  · obtain ⟨log, hsettle, hfst, hlog⟩ := Plan.settle_gather (k := conclude n) horder hlength hrs
    refine ⟨log, hsettle, hfst, hlog.trans (.of_eq ?_)⟩
    rw [hrs, fated_deliveries, Keyed.keys, List.zip_map']
  · rw [Plan.unfolds_gather_nil, conclude_unfolds_iff, hrs, fated_deliveries]

/-- What the ways to conclude have to do with the answers. -/
theorem Concludes.tally {n : Notification} {answers ys : List Exchange} {a : Except RelayError Outcome}
    (h : Concludes n answers ys a) :
    ((∃ s f, a = .ok (.delivered s f)) ↔ ∃ x ∈ answers, x.isAccepted = true) ∧
    (∀ s f, a = .ok (.delivered s f) → s + f = answers.length ∧ s = answers.countP isAccepted ∧ ys = []) ∧
    ((∀ x ∈ answers, x.isAccepted = false) →
      (ys = [] ∧ a = .error (.exhausted n.uuid n.retries (report n answers))) ∨
        ∃ d reply, ys = [⟨.recordFailure d, reply⟩] ∧ d.error = report n answers) := by
  cases h with
  | delivered hacc =>
    refine ⟨⟨fun _ => hacc, fun _ => ⟨_, _, rfl⟩⟩, ?_, fun hnone => absurd hacc (not_exists_isAccepted hnone)⟩
    rintro _ _ ⟨⟩
    refine ⟨?_, rfl, rfl⟩
    simpa using (List.length_eq_countP_add_countP isAccepted (l := answers)).symm
  | exhausted hnone hlast =>
    exact ⟨⟨nofun, fun hacc => absurd hacc (not_exists_isAccepted hnone)⟩, nofun, fun _ => .inl ⟨rfl, rfl⟩⟩
  | recorded hnone hleft r =>
    exact ⟨⟨nofun, fun hacc => absurd hacc (not_exists_isAccepted hnone)⟩, nofun, fun _ => .inr ⟨_, _, rfl, rfl⟩⟩
  | unrecorded hnone hleft e =>
    exact ⟨⟨nofun, fun hacc => absurd hacc (not_exists_isAccepted hnone)⟩, nofun, fun _ => .inr ⟨_, _, rfl, rfl⟩⟩

/-- **What a dispatch makes of its deliveries.** Let the channels of a readable notification with a counter that is not
negative give any replies, by their keys. Whatever the order in which the replies come, each delivery is made once, and
what is left of the dispatch is the same. Whatever it goes through then, it ends as delivered if and only if some
delivery was accepted; then it counts the accepted ones and the others, and calls nothing more. Otherwise it reports
every channel with its obstacle, in the order of the keys, with the error that it ends with or in the record that it
writes. A payload that cannot be read, or with a negative counter, makes no call at all. -/
theorem dispatch_tally (payload : Octets) :
    (∀ n : Notification, Wire.decode payload = .ok n → 0 ≤ n.retries →
      (∀ rs, (complaints n n.channels.values rs).length ≤ n.channels.values.length) ∧
      ∀ fate : Int64 → (c : Call) → c.Reply, ∃ rest : Plan (Except RelayError Outcome),
        (∀ order, order.Perm n.channels.keys → ∃ log,
          (dispatch payload).settle fate order n.channels.keys = (log, rest) ∧ log.map Prod.fst = order ∧
            log.Perm (n.channels.entries.map fun e => (e.1, attempt n fate e))) ∧
        (∃ ys a, rest.Unfolds ys a) ∧
        ∀ ys a, rest.Unfolds ys a →
          ((∃ s f, a = .ok (.delivered s f)) ↔ ∃ e ∈ n.channels.entries, (attempt n fate e).isAccepted = true) ∧
          (∀ s f, a = .ok (.delivered s f) → s + f = n.channels.size ∧
            s = n.channels.entries.countP (fun e => (attempt n fate e).isAccepted) ∧ ys = []) ∧
          ((∀ e ∈ n.channels.entries, (attempt n fate e).isAccepted = false) →
            (ys = [] ∧
              a = .error (.exhausted n.uuid n.retries (report n (n.channels.entries.map (attempt n fate))))) ∨
            ∃ d reply, ys = [⟨.recordFailure d, reply⟩] ∧
              d.error = report n (n.channels.entries.map (attempt n fate)))) ∧
    (∀ p : Json.Problem, (Wire.decode payload : Except Json.Problem Notification) = .error p →
      ∀ es a, (dispatch payload).Unfolds es a → es = [] ∧ a = .error (.unreadable p)) ∧
    ∀ n : Notification, Wire.decode payload = .ok n → n.retries < 0 →
      ∀ es a, (dispatch payload).Unfolds es a → es = [] ∧ ∃ reason, a = .error (.invalid reason) := by
  refine ⟨fun n hdecode hn => ⟨fun rs => ?_, fun fate => ?_⟩, fun p hp es a h => ?_, fun n hdecode hn es a h => ?_⟩
  · have hcount := length_complaints_add n n.channels.values rs
    omega
  · obtain ⟨rest, hsettle, hrest⟩ := settle_deliver n fate
    rw [dispatch_of_decode hdecode hn]
    refine ⟨rest, hsettle, rest.exists_unfolds, fun ys a h => ?_⟩
    obtain ⟨hiff, hcounts, hreport⟩ := ((hrest ys a).mp h).tally
    refine ⟨by simpa using hiff, fun s f ha => ?_, fun hnone => hreport (List.forall_mem_map.mpr hnone)⟩
    obtain ⟨hsum, hs, hys⟩ := hcounts s f ha
    exact ⟨by simpa [Keyed.size] using hsum, by rw [hs, List.countP_map]; rfl, hys⟩
  · rw [dispatch_of_unreadable hp] at h
    exact Plan.unfolds_done_iff.mp h
  · obtain ⟨reason, hreason⟩ := dispatch_of_negative hdecode hn
    rw [hreason] at h
    obtain ⟨rfl, rfl⟩ := Plan.unfolds_done_iff.mp h
    exact ⟨rfl, reason, rfl⟩

/-- A notification for one channel on each platform. -/
def threefold (retries : Int64) : Notification where
  uuid := "a"
  title := "Payment"
  message := "paid"
  channels := .ofList [(1, ⟨1, .email, "ops@example.com", "ops"⟩), (2, ⟨2, .slack, "https://slack", "ops"⟩),
    (3, ⟨3, .discord, "https://discord", "ops"⟩)]
  event := ⟨"approved", "EUR", "ann", "bob", "transfer", 1, 100⟩
  retries := retries

/-- Emails are refused, and the posts to a channel are answered with a status. -/
def statusOf (status : Int64 → Nat) (key : Int64) : (c : Call) → c.Reply
  | .post _ _ => .ok (status key)
  | _ => .error "mailbox full"

theorem dispatch_tally_threefold :
    (∃ rest : Plan (Except RelayError Outcome),
      (∃ log, (dispatch (Wire.encode (threefold 0))).settle (statusOf fun k => if k = 2 then 500 else 299) [3, 1, 2]
        (threefold 0).channels.keys = (log, rest) ∧ log.map Prod.fst = [3, 1, 2]) ∧
      (∃ ys a, rest.Unfolds ys a) ∧ ∀ ys a, rest.Unfolds ys a → a = .ok (.delivered 1 2)) ∧
    (∃ rest : Plan (Except RelayError Outcome), ∃ text,
      (∃ ys a, rest.Unfolds ys a) ∧ (∀ ys a, rest.Unfolds ys a →
        (ys = [] ∧ a = .error (.exhausted "a" 0 text)) ∨
          ∃ d reply, ys = [⟨.recordFailure d, reply⟩] ∧ d.error = text) ∧
      text = "channel 1 (email): mailbox full, channel 2 (slack): webhook returned status 300, " ++
        "channel 3 (discord): webhook returned status 404") ∧
    (∀ es a, (dispatch []).Unfolds es a → es = []) ∧
    ∀ es a, (dispatch (Wire.encode (threefold (-7)))).Unfolds es a → es = [] := by
  refine ⟨?_, ?_, fun es a h => ?_, fun es a h => ?_⟩
  · obtain ⟨-, htally⟩ := (dispatch_tally (Wire.encode (threefold 0))).1 _ (decode_encode_notification _) (by decide)
    obtain ⟨rest, hsettle, hends, hrest⟩ := htally (statusOf fun k => if k = 2 then 500 else 299)
    obtain ⟨log, hlog, horder, -⟩ := hsettle [3, 1, 2] (by decide)
    refine ⟨rest, ⟨log, hlog, horder⟩, hends, fun ys a h => ?_⟩
    obtain ⟨hiff, hcounts, -⟩ := hrest ys a h
    obtain ⟨s, f, rfl⟩ := hiff.mpr ⟨(3, ⟨3, .discord, "https://discord", "ops"⟩), by decide, rfl⟩
    obtain ⟨hsum, hs, -⟩ := hcounts s f rfl
    have hs1 : s = 1 := hs
    have hf2 : f = 2 := by
      have hsize : (threefold 0).channels.size = 3 := rfl
      omega
    rw [hs1, hf2]
  · obtain ⟨-, htally⟩ := (dispatch_tally (Wire.encode (threefold 0))).1 _ (decode_encode_notification _) (by decide)
    obtain ⟨rest, -, hends, hrest⟩ := htally (statusOf fun k => if k = 2 then 300 else 404)
    exact ⟨rest, _, hends, fun ys a h => (hrest ys a h).2.2 (by decide), rfl⟩
  · exact ((dispatch_tally []).2.1 _ rfl es a h).1
  · exact ((dispatch_tally _).2.2 _ (decode_encode_notification _) (by decide) es a h).1

end Dispatch

end Courier
