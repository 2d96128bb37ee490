import Courier.Proofs.Braiding
import Courier.Proofs.LeavingCallers
import Courier.Proofs.SubmissionPaths

/-!
# Submissions of separate names

Two submissions of different names share the stores, but nothing in them that either looks at: the channels stay as they
are, and each has a marker of its own. `Leaves` says what a call that a submission of a name can make does to the
stores. From it follows that calls for different names commute (`Alike.of_swap`) and that one for a name is answered
without regard to those for another (`Leaves.sees`). So however two submissions are carried on side by side, each ends
as if it were alone, and both leave what they leave one after the other (`separate_names`).
-/

namespace Courier

open Memory

/-! ## Calls for a name -/

/-- A call that writes an attempt down. -/
def Call.IsNote : Call → Prop
  | .recordFailure _ => True
  | _ => False

theorem Call.IsLookup.not_isNote {c : Call} (h : c.IsLookup) : ¬ c.IsNote := by
  cases c <;> first | exact id | exact h.elim

namespace Plan

variable {α β : Type} {uuid : String}

/-- A plan makes only calls of a submission of a name, at the same time only lookups, and goes on alike whatever is said
to an attempt that is written down. -/
def Concerns (uuid : String) : Plan α → Prop
  | done _ => True
  | ask c k => c.Concerns uuid ∧ (c.IsNote → ∀ r r', k r = k r') ∧ ∀ r, (k r).Concerns uuid
  | gather cs k => (∀ c ∈ cs, c.IsLookup) ∧ ∀ rs, (k rs).Concerns uuid

theorem Concerns.next? : ∀ {p : Plan α} {j : Nat} {c : Call} {k : c.Reply → Plan α}, p.Concerns uuid →
    p.next? j = some ⟨c, k⟩ → c.Concerns uuid ∧ (c.IsNote → ∀ r r', k r = k r') ∧ ∀ r, (k r).Concerns uuid
  | done _, _, _, _, _, h => by cases h
  | ask _ _, 0, _, _, hp, h => by cases h; exact hp
  | ask _ _, _ + 1, _, _, _, h => by cases h
  | gather [] k, _, _, _, hp, h => Concerns.next? (p := k ()) (hp.2 ()) h
  | gather (_ :: _) k, _, _, _, hp, h => by
    obtain ⟨⟨d, others, join⟩, hpick, he⟩ := Option.map_eq_some_iff.mp h
    cases he
    obtain ⟨hd, ho⟩ := Call.mem_of_pick hpick
    have hlookup := hp.1 _ hd
    exact ⟨hlookup.concerns uuid, fun hnote => absurd hnote hlookup.not_isNote,
      fun r => ⟨fun e he => hp.1 e (ho e he), fun rs => hp.2 _⟩⟩

/-- What follows a plan needs to be about the name only for the results that the plan can end with. -/
theorem Concerns.bind {Q : α → Prop} {p : Plan α} {f : α → Plan β} (hp : p.Concerns uuid) (hq : p.Ends Q)
    (hf : ∀ a, Q a → (f a).Concerns uuid) : (p.bind f).Concerns uuid := by
  induction p with
  | done a => exact hf a hq
  | ask c k ih =>
    exact ⟨hp.1, fun hnote r r' => congrArg (Plan.bind · f) (hp.2.1 hnote r r'), fun r => ih r (hp.2.2 r) (hq r)⟩
  | gather cs k ih => exact ⟨hp.1, fun rs => ih rs (hp.2 rs) (hq rs)⟩

end Plan

theorem Resolution.resolve_concerns (t : Targets) (uuid : String) : (resolve t).Concerns uuid := by
  rcases resolve_cases t with h | ⟨gs, h⟩ | ⟨is, h⟩ | ⟨is, gs, h⟩ <;> rw [h] <;> simp [Plan.Concerns, Call.IsLookup]

theorem Submission.prepare_concerns (r : Request) (uuid : String) : (prepare r).Concerns uuid := by
  unfold prepare
  cases r.validate with
  | error e => trivial
  | ok event =>
    refine (Resolution.resolve_concerns _ uuid).bind (Plan.ends_true _) fun a _ => ?_
    cases a <;> trivial

theorem Handoff.run_concerns (h : Handoff) : h.run.Concerns h.uuid := by
  have hrecord : ∀ e, (h.record e).Concerns h.uuid := fun e => ⟨trivial, fun _ _ _ => rfl, fun _ => trivial⟩
  have hsending : h.sending.Concerns h.uuid := by
    refine ⟨trivial, fun hnote => hnote.elim, fun r => ?_⟩
    rcases r with e | ⟨⟩
    · exact hrecord _
    · trivial
  have hmarking : h.marking.Concerns h.uuid := by
    refine ⟨rfl, fun hnote => hnote.elim, fun r => ?_⟩
    rcases r with e | ⟨⟩
    · exact hrecord _
    · exact hsending
  rw [run_eq]
  refine ⟨rfl, fun hnote => hnote.elim, fun r => ?_⟩
  rcases r with e | m
  · exact hrecord _
  · simp only [asked]
    split
    · exact hrecord _
    · exact hmarking

/-- A submission makes only calls for the name of its request. -/
theorem Submission.create_concerns (sub : Submission) (r : Request) : (sub.create r).Concerns r.uuid := by
  refine (prepare_concerns r r.uuid).bind (prepare_ends r) fun a ha => ?_
  cases a with
  | error e => trivial
  | ok n =>
    obtain ⟨event, channels, -, hn⟩ := ha n rfl
    have huuid : (sub.handoff n).uuid = r.uuid := by
      rw [hn]
      rfl
    refine (huuid ▸ (sub.handoff n).run_concerns).bind (Plan.ends_true _) fun a _ => ?_
    cases a <;> trivial

/-! ## Effects of a call -/

/-- What a record says, without its id and its moment. -/
def FailureRecord.draft (r : FailureRecord) : FailureDraft := ⟨r.uuid, r.body, r.error⟩

/-- What is written down in stores, the oldest first. -/
def Memory.Stores.drafts (s : Stores) : List FailureDraft := s.records.map FailureRecord.draft

/-- The stores, where the call alone decides whether it fails. -/
def ruled (fault : Call → Option String) : Plan.Responder Stores := fun c s => Traffic.answerUnless (fault c) c s

/-- What a call leaves of the entry that it is about; one that fails leaves it as it is. -/
def Call.leaves (fault : Option String) (now : Nat) (e : Option Memory.Entry) (c : Call) : Option Memory.Entry :=
  match fault, c with
  | none, .readMarker _ => e.filter fun e => now < e.expires
  | none, .keepMarker _ marker lifetime => some ⟨marker, now + lifetime⟩
  | _, _ => e

/-- What a call appends to the queue of a topic. -/
def Call.sends (fault : Option String) (topic : String) (c : Call) : List Octets :=
  match fault, c with
  | none, .enqueue t payload => if topic = t then [payload] else []
  | _, _ => []

/-- What a call writes down. -/
def Call.notes (fault : Option String) (c : Call) : List FailureDraft :=
  match fault, c with
  | none, .recordFailure d => [d]
  | _, _ => []

/-- What a call for a name does to the stores. -/
structure Leaves (fault : Call → Option String) (uuid : String) (c : Call) (s t : Stores) : Prop where
  channels : t.channels = s.channels
  now : t.now = s.now
  others : ∀ key, key ≠ Guard.key uuid → t.cache.lookup key = s.cache.lookup key
  marker : t.cache.lookup (Guard.key uuid) = c.leaves (fault c) s.now (s.cache.lookup (Guard.key uuid))
  queues : ∀ topic, t.waiting topic = s.waiting topic ++ c.sends (fault c) topic
  records : t.drafts = s.drafts ++ c.notes (fault c)

namespace Memory.Cache

theorem lookup_read_self (c : Cache) (now : Nat) (key : String) :
    (c.read now key).2.lookup key = (c.lookup key).filter fun e => now < e.expires := by
  unfold read
  cases h : c.lookup key with
  | none => simp [h]
  | some e =>
    by_cases he : e.expires ≤ now
    · simp [he, Named.lookup_remove_self, Option.filter, Nat.not_lt.mpr he]
    · simp [he, h, Option.filter, Nat.lt_of_not_le he]

theorem lookup_read_of_ne {key other : String} (h : other ≠ key) (c : Cache) (now : Nat) :
    (c.read now key).2.lookup other = c.lookup other := by
  unfold read
  split
  · split
    · rw [Named.lookup_remove_of_ne h]
    · rfl
  · rfl

end Memory.Cache

variable {fault : Call → Option String} {u v : String}

/-- A call that does nothing leaves the stores as they are. -/
theorem leaves_self {c : Call} {s : Stores} (hmarker : ∀ e, c.leaves (fault c) s.now e = e)
    (hqueues : ∀ topic, c.sends (fault c) topic = []) (hrecords : c.notes (fault c) = []) : Leaves fault u c s s where
  channels := rfl
  now := rfl
  others _ _ := rfl
  marker := (hmarker _).symm
  queues topic := by rw [hqueues, List.append_nil]
  records := by rw [hrecords, List.append_nil]

/-- What a call for a name does to the stores, whether it fails or not. -/
theorem ruled_leaves {c : Call} (hc : c.Concerns u) (s : Stores) : Leaves fault u c s (ruled fault c s).2 := by
  unfold ruled
  cases hf : fault c with
  | some e => exact leaves_self (by simp [hf, Call.leaves]) (by simp [hf, Call.sends]) (by simp [hf, Call.notes])
  | none =>
    cases c with
    | channelsWithIds ids =>
      exact leaves_self (by simp [hf, Call.leaves]) (by simp [hf, Call.sends]) (by simp [hf, Call.notes])
    | channelsInGroups groups =>
      exact leaves_self (by simp [hf, Call.leaves]) (by simp [hf, Call.sends]) (by simp [hf, Call.notes])
    | readMarker key =>
      obtain rfl : key = Guard.key u := hc
      refine ⟨rfl, rfl, fun other ho => Cache.lookup_read_of_ne ho _ _, ?_, fun topic => ?_, ?_⟩
      · rw [hf]
        exact Cache.lookup_read_self _ _ _
      · rw [hf]
        exact (List.append_nil _).symm
      · rw [hf]
        exact (List.append_nil _).symm
    | keepMarker key marker lifetime =>
      obtain rfl : key = Guard.key u := hc
      refine ⟨rfl, rfl, fun other ho => Named.lookup_put_of_ne ho _ _, ?_, fun topic => ?_, ?_⟩
      · rw [hf]
        exact Named.lookup_put_self _ _ _
      · rw [hf]
        exact (List.append_nil _).symm
      · rw [hf]
        exact (List.append_nil _).symm
    | enqueue t payload =>
      refine ⟨rfl, rfl, fun _ _ => rfl, ?_, fun topic => ?_, ?_⟩
      · rw [hf]
        rfl
      · show (s.queues.push t payload).waiting topic = s.queues.waiting topic ++ _
        rw [hf]
        by_cases ht : topic = t
        · subst ht
          rw [Queues.waiting_push_self, Call.sends, if_pos rfl]
        · rw [Queues.waiting_push_of_ne ht, Call.sends, if_neg ht, List.append_nil]
      · rw [hf]
        exact (List.append_nil _).symm
    | recordFailure d =>
      refine ⟨rfl, rfl, fun _ _ => rfl, ?_, fun topic => ?_, ?_⟩
      · rw [hf]
        rfl
      · rw [hf]
        exact (List.append_nil _).symm
      · rw [hf]
        exact List.map_append
    | _ => exact hc.elim

/-! ## What a submission can see -/

/-- Stores that agree on what a submission of a name can learn. -/
structure Sees (uuid : String) (s t : Stores) : Prop where
  channels : s.channels = t.channels
  now : s.now = t.now
  marker : s.cache.lookup (Guard.key uuid) = t.cache.lookup (Guard.key uuid)

theorem Sees.trans {s t w : Stores} (h : Sees u s t) (h' : Sees u t w) : Sees u s w :=
  ⟨h.channels.trans h'.channels, h.now.trans h'.now, h.marker.trans h'.marker⟩

/-- A call for a name gets the same reply, unless it writes something down. -/
theorem Sees.reply {s t : Stores} (h : Sees u s t) {c : Call} (hc : c.Concerns u) (hnote : ¬ c.IsNote) :
    (ruled fault c s).1 = (ruled fault c t).1 := by
  unfold ruled
  cases fault c with
  | some e => rfl
  | none =>
    cases c with
    | channelsWithIds ids =>
      show Except.ok (s.channels.withIds ids) = Except.ok (t.channels.withIds ids)
      rw [h.channels]
    | channelsInGroups groups =>
      show Except.ok (s.channels.inGroups groups) = Except.ok (t.channels.inGroups groups)
      rw [h.channels]
    | readMarker key =>
      obtain rfl : key = Guard.key u := hc
      show Except.ok (s.cache.live? s.now (Guard.key u)) = Except.ok (t.cache.live? t.now (Guard.key u))
      rw [Cache.live?_eq, Cache.live?_eq, h.marker, h.now]
    | keepMarker key marker lifetime => rfl
    | enqueue topic payload => rfl
    | recordFailure d => exact absurd trivial hnote
    | _ => exact hc.elim

/-- A plan for a name goes on alike. -/
theorem Sees.goesOn {s t : Stores} (h : Sees u s t) {α : Type} {p : Plan α} (hp : p.Concerns u) {j : Nat} {c : Call}
    {k : c.Reply → Plan α} (hn : p.next? j = some ⟨c, k⟩) : k (ruled fault c s).1 = k (ruled fault c t).1 := by
  obtain ⟨hc, hconst, -⟩ := hp.next? hn
  by_cases hnote : c.IsNote
  · exact hconst hnote _ _
  · rw [h.reply hc hnote]

namespace Leaves

variable {c d : Call} {s s' t t' x y : Stores}

/-- A call for a name keeps the agreement on what can be learnt. -/
theorem keepsSees (hs : Leaves fault u c s s') (ht : Leaves fault u c t t') (h : Sees u s t) : Sees u s' t' where
  channels := by rw [hs.channels, ht.channels, h.channels]
  now := by rw [hs.now, ht.now, h.now]
  marker := by rw [hs.marker, ht.marker, h.now, h.marker]

/-- A submission of another name learns nothing of it. -/
theorem sees (h : Leaves fault u c s t) (huv : u ≠ v) : Sees v s t where
  channels := h.channels.symm
  now := h.now.symm
  marker := (h.others _ fun hk => huv (Guard.key_injective hk).symm).symm

end Leaves

/-! ## Stores that differ only in the order of things -/

/-- The same channels and markers at the same moment, the same payloads waiting and the same attempts written down. -/
structure Memory.Stores.Alike (s t : Stores) : Prop where
  channels : s.channels = t.channels
  now : s.now = t.now
  cache : ∀ key, s.cache.lookup key = t.cache.lookup key
  queues : ∀ topic, (s.waiting topic).Perm (t.waiting topic)
  records : s.drafts.Perm t.drafts

namespace Memory.Stores.Alike

variable {c d : Call} {s s' t t' w x y : Stores}

theorem refl (s : Stores) : Alike s s := ⟨rfl, rfl, fun _ => rfl, fun _ => .refl _, .refl _⟩

theorem trans (h : Alike s t) (h' : Alike t w) : Alike s w :=
  ⟨h.channels.trans h'.channels, h.now.trans h'.now, fun key => (h.cache key).trans (h'.cache key),
    fun topic => (h.queues topic).trans (h'.queues topic), h.records.trans h'.records⟩

theorem sees (h : Alike s t) (uuid : String) : Sees uuid s t := ⟨h.channels, h.now, h.cache _⟩

/-- A call for a name keeps stores alike. -/
theorem of_leaves (h : Alike s t) (hs : Leaves fault u c s s') (ht : Leaves fault u c t t') : Alike s' t' where
  channels := by rw [hs.channels, ht.channels, h.channels]
  now := by rw [hs.now, ht.now, h.now]
  cache key := by
    by_cases hk : key = Guard.key u
    · subst hk
      rw [hs.marker, ht.marker, h.now, h.cache]
    · rw [hs.others key hk, ht.others key hk, h.cache]
  queues topic := by
    rw [hs.queues, ht.queues]
    exact (h.queues topic).append_right _
  records := by
    rw [hs.records, ht.records]
    exact h.records.append_right _

/-- Calls for different names can be swapped. -/
theorem of_swap (huv : u ≠ v) (hs : Leaves fault u c s s') (hs' : Leaves fault v d s' x) (ht : Leaves fault v d s t)
    (ht' : Leaves fault u c t y) : Alike x y where
  channels := by rw [hs'.channels, hs.channels, ht'.channels, ht.channels]
  now := by rw [hs'.now, hs.now, ht'.now, ht.now]
  cache key := by
    have hkeys : Guard.key u ≠ Guard.key v := fun hk => huv (Guard.key_injective hk)
    by_cases hu : key = Guard.key u
    · subst hu
      rw [hs'.others _ hkeys, hs.marker, ht'.marker, ht.others _ hkeys, ht.now]
    · by_cases hv : key = Guard.key v
      · subst hv
        rw [hs'.marker, hs.others _ hu, ht'.others _ hu, ht.marker, hs.now]
      · rw [hs'.others _ hv, hs.others _ hu, ht'.others _ hu, ht.others _ hv]
  queues topic := by
    rw [hs'.queues, hs.queues, ht'.queues, ht.queues, List.append_assoc, List.append_assoc]
    exact List.perm_append_comm.append_left _
  records := by
    rw [hs'.records, hs.records, ht'.records, ht.records, List.append_assoc, List.append_assoc]
    exact List.perm_append_comm.append_left _

end Memory.Stores.Alike

/-! ## Carrying plans out -/

section Runs

variable {α β : Type} {p : Plan α} {q : Plan β} {s t : Stores}

/-- What can be learnt decides the result of a plan. -/
theorem Sees.run (hp : p.Concerns u) (h : Sees u s t) : (p.run (ruled fault) s).1 = (p.run (ruled fault) t).1 := by
  induction p using Plan.step_induction generalizing s t with
  | ended p a _ hrun => rw [hrun, hrun]
  | asked p c k hn ih =>
    obtain ⟨hc, -, hk⟩ := hp.next? hn
    rw [Plan.run_of_next? _ hn, Plan.run_of_next? _ hn, h.goesOn hp hn]
    exact ih _ (hk _) ((ruled_leaves hc s).keepsSees (ruled_leaves hc t) h)

/-- A submission of another name learns nothing of a plan. -/
theorem run_sees (huv : u ≠ v) (hp : p.Concerns u) (s : Stores) : Sees v s (p.run (ruled fault) s).2 := by
  induction p using Plan.step_induction generalizing s with
  | ended p a _ hrun =>
    rw [hrun]
    exact ⟨rfl, rfl, rfl⟩
  | asked p c k hn ih =>
    obtain ⟨hc, -, hk⟩ := hp.next? hn
    rw [Plan.run_of_next? _ hn]
    exact ((ruled_leaves hc s).sees huv).trans (ih _ (hk _) _)

/-- A plan leaves stores alike. -/
theorem Memory.Stores.Alike.run (hp : p.Concerns u) (h : Alike s t) :
    Alike (p.run (ruled fault) s).2 (p.run (ruled fault) t).2 := by
  induction p using Plan.step_induction generalizing s t with
  | ended p a _ hrun =>
    rw [hrun, hrun]
    exact h
  | asked p c k hn ih =>
    obtain ⟨hc, -, hk⟩ := hp.next? hn
    rw [Plan.run_of_next? _ hn, Plan.run_of_next? _ hn, (h.sees u).goesOn hp hn]
    exact ih _ (hk _) (h.of_leaves (ruled_leaves hc s) (ruled_leaves hc t))

/-- A call for a name can come before or after a plan for another name. -/
theorem run_swap (huv : u ≠ v) {c : Call} (hc : c.Concerns u) (hp : p.Concerns v) (s : Stores) :
    Stores.Alike (p.run (ruled fault) (ruled fault c s).2).2 (ruled fault c (p.run (ruled fault) s).2).2 := by
  induction p using Plan.step_induction generalizing s with
  | ended p a _ hrun =>
    rw [hrun, hrun]
    exact .refl _
  | asked p d k hn ih =>
    obtain ⟨hd, -, hk⟩ := hp.next? hn
    have hgoes : k (ruled fault d s).1 = k (ruled fault d (ruled fault c s).2).1 :=
      ((ruled_leaves hc s).sees huv).goesOn hp hn
    rw [Plan.run_of_next? _ hn, Plan.run_of_next? _ hn, ← hgoes]
    have hswap : Stores.Alike (ruled fault d (ruled fault c s).2).2 (ruled fault c (ruled fault d s).2).2 :=
      .of_swap huv (ruled_leaves hc s) (ruled_leaves hd _) (ruled_leaves hd s) (ruled_leaves hc _)
    exact (hswap.run (hk _)).trans (ih _ (hk _) _)

/-- Calls that change nothing bring the same replies in any order. -/
theorem Plan.answerAll_of_pick {σ : Type} {answer : Plan.Responder σ} {s : σ} :
    ∀ {cs : List Call} {j : Nat} {c : Call} {others : List Call}
      {join : c.Reply → Call.Replies others → Call.Replies cs}, (∀ d ∈ cs, (answer d s).2 = s) →
      Call.pick cs j = some ⟨c, others, join⟩ →
      Plan.answerAll answer cs s =
        (join (answer c s).1 (Plan.answerAll answer others s).1, (Plan.answerAll answer others s).2)
  | [], _, _, _, _, _, h => by cases h
  | c :: cs, 0, _, _, _, hcs, h => by
    cases h
    have hc := hcs c List.mem_cons_self
    show (((answer c s).1, (Plan.answerAll answer cs (answer c s).2).1),
      (Plan.answerAll answer cs (answer c s).2).2) = _
    rw [hc]
    rfl
  | d :: cs, j + 1, _, _, _, hcs, h => by
    obtain ⟨⟨c, others, join⟩, hpick, he⟩ := Option.map_eq_some_iff.mp h
    cases he
    have hd := hcs d List.mem_cons_self
    have hrest := answerAll_of_pick (fun e he => hcs e (List.mem_cons_of_mem _ he)) hpick
    show (((answer d s).1, (Plan.answerAll answer cs (answer d s).2).1), (Plan.answerAll answer cs (answer d s).2).2) =
      (((answer d s).1, join _ (Plan.answerAll answer others (answer d s).2).1),
        (Plan.answerAll answer others (answer d s).2).2)
    rw [hd, hrest]

/-- Whichever call of a plan is answered first, carrying out the rest brings the same. -/
theorem run_of_next?_any : ∀ {p : Plan α} {j : Nat} {c : Call} {k : c.Reply → Plan α}, p.Concerns u →
    p.next? j = some ⟨c, k⟩ → ∀ s, p.run (ruled fault) s = (k (ruled fault c s).1).run (ruled fault) (ruled fault c s).2
  | .done _, _, _, _, _, h, _ => by cases h
  | .ask _ _, 0, _, _, _, h, _ => by cases h; rfl
  | .ask _ _, _ + 1, _, _, _, h, _ => by cases h
  | .gather [] k, _, _, _, hp, h, s => run_of_next?_any (p := k ()) (hp.2 ()) h s
  | .gather (c :: cs) k, j, _, _, hp, h, s => by
    obtain ⟨⟨d, others, join⟩, hpick, he⟩ := Option.map_eq_some_iff.mp h
    cases he
    have hsame : ∀ e ∈ c :: cs, (ruled fault e s).2 = s := fun e he => Traffic.answerUnless_of_lookup (hp.1 e he) _ s
    have hall := Plan.answerAll_of_pick hsame hpick
    have hd := hsame _ (Call.mem_of_pick hpick).1
    rw [hd]
    show (k (Plan.answerAll (ruled fault) (c :: cs) s).1).run (ruled fault)
      (Plan.answerAll (ruled fault) (c :: cs) s).2 = _
    rw [hall]
    rfl

/-- **Side by side as one after the other.** -/
theorem Plan.Braids.eq_run (huv : u ≠ v) {a : α} {b : β} (h : Plan.Braids (ruled fault) p q s a b t)
    (hp : p.Concerns u) (hq : q.Concerns v) :
    a = (p.run (ruled fault) s).1 ∧ b = (q.run (ruled fault) s).1 ∧
      Stores.Alike t (q.run (ruled fault) (p.run (ruled fault) s).2).2 := by
  induction h with
  | @ended p q a b ha hb s =>
    rw [Plan.run_of_result? ha, Plan.run_of_result? hb]
    exact ⟨rfl, rfl, .refl _⟩
  | @first p q j c k s t a b hn rest ih =>
    obtain ⟨hc, -, hk⟩ := hp.next? hn
    obtain ⟨ha, hb, ht⟩ := ih (hk _) hq
    rw [run_of_next?_any hp hn s]
    refine ⟨ha, ?_, ht⟩
    rw [hb]
    exact (((ruled_leaves hc s).sees huv).run hq).symm
  | @second p q j c k s t a b hn rest ih =>
    obtain ⟨hc, -, hk⟩ := hq.next? hn
    obtain ⟨ha, hb, ht⟩ := ih hp (hk _)
    refine ⟨?_, ?_, ?_⟩
    · rw [ha]
      exact (((ruled_leaves hc s).sees huv.symm).run hp).symm
    · rw [hb, run_of_next?_any hq hn s]
    · -- the call is carried over the whole of the other plan
      have hsees : Sees v s (p.run (ruled fault) s).2 := run_sees huv hp s
      have hswap : Stores.Alike (p.run (ruled fault) (ruled fault c s).2).2
          (ruled fault c (p.run (ruled fault) s).2).2 :=
        run_swap huv.symm hc hp s
      rw [run_of_next?_any hq hn (p.run (ruled fault) s).2, ← hsees.goesOn hq hn]
      exact ht.trans (hswap.run (hk _))

end Runs

namespace Submission

/-- **Submissions of different names never influence one another.** Let the call alone decide whether it fails, and let
no time pass. Then each of two submissions brings the same whether it is alone, comes first, comes second, or is carried
on side by side with the other one, call by call in any way. In the end the channels, the markers and the moment are the
same, the same payloads wait on every topic, and the same attempts have been written down. -/
theorem separate_names (sub : Submission) (fault : Call → Option String) (s : Stores) {r₁ r₂ : Request}
    (h : r₁.uuid ≠ r₂.uuid) :
    ∃ a b t,
      ((sub.create r₁).run (ruled fault) s).1 = a ∧ ((sub.create r₂).run (ruled fault) s).1 = b ∧
      (sub.create r₂).run (ruled fault) ((sub.create r₁).run (ruled fault) s).2 = (b, t) ∧
      (∃ t', (sub.create r₁).run (ruled fault) ((sub.create r₂).run (ruled fault) s).2 = (a, t') ∧ t'.Alike t) ∧
      Plan.Braids (ruled fault) (sub.create r₁) (sub.create r₂) s a b t ∧
      ∀ a' b' t', Plan.Braids (ruled fault) (sub.create r₁) (sub.create r₂) s a' b' t' →
        a' = a ∧ b' = b ∧ t'.Alike t := by
  have heq : ∀ {a b t}, Plan.Braids (ruled fault) (sub.create r₁) (sub.create r₂) s a b t → _ := fun h' =>
    h'.eq_run h (sub.create_concerns r₁) (sub.create_concerns r₂)
  have hbraids := Plan.braids_in_turn (ruled fault) (sub.create r₁) (sub.create r₂) s
  obtain ⟨-, hsecond, -⟩ := heq hbraids
  obtain ⟨hfirst, -, hback⟩ := heq (Plan.braids_in_turn (ruled fault) (sub.create r₂) (sub.create r₁) s).symm
  have hforth : (sub.create r₂).run (ruled fault) ((sub.create r₁).run (ruled fault) s).2 =
      (((sub.create r₂).run (ruled fault) s).1,
        ((sub.create r₂).run (ruled fault) ((sub.create r₁).run (ruled fault) s).2).2) := Prod.ext hsecond rfl
  have hthere : (sub.create r₁).run (ruled fault) ((sub.create r₂).run (ruled fault) s).2 =
      (((sub.create r₁).run (ruled fault) s).1,
        ((sub.create r₁).run (ruled fault) ((sub.create r₂).run (ruled fault) s).2).2) := Prod.ext hfirst rfl
  refine ⟨_, _, _, rfl, rfl, hforth, ⟨_, hthere, hback⟩, ?_, fun a' b' t' h' => heq h'⟩
  rw [hsecond] at hbraids
  exact hbraids

/-- The guard takes no marker for one of two names. -/
def grudge : Call → Option String
  | .keepMarker key _ _ => if key = Guard.key "b" then some "read only" else none
  | _ => none

theorem separate_names_grudge :
    (Desk.plainRequest "a").uuid ≠ (Desk.plainRequest "b").uuid ∧ ∃ n, ∀ a b t,
      Plan.Braids (ruled grudge) ((⟨"q", 10⟩ : Submission).create (Desk.plainRequest "a"))
        ((⟨"q", 10⟩ : Submission).create (Desk.plainRequest "b")) (.ofChannels []) a b t →
      a = .ok n ∧ b = .error (.guardDown "read only") := by
  refine ⟨by decide, ?_⟩
  obtain ⟨n, hn⟩ : ∃ n, (((⟨"q", 10⟩ : Submission).create (Desk.plainRequest "a")).run (ruled grudge)
      (.ofChannels [])).1 = .ok n := ⟨_, rfl⟩
  obtain ⟨a, b, t, ha, hb, -, -, -, hall⟩ := separate_names ⟨"q", 10⟩ grudge (.ofChannels [])
    (show (Desk.plainRequest "a").uuid ≠ (Desk.plainRequest "b").uuid by decide)
  refine ⟨n, fun a' b' t' h => ?_⟩
  obtain ⟨rfl, rfl, -⟩ := hall a' b' t' h
  exact ⟨ha.symm.trans hn, hb.symm.trans rfl⟩

end Submission

end Courier
