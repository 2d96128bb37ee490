import Courier.Proofs.Traffic

/-!
# The guard answers from what was written last

Names are looked up and marked in any order, markers are put under keys without the guard, and time passes
(`Guard.Deed`); the cache may fail at any call. What is written, and when, can be told from the deeds alone
(`Guard.writes`). The invariant that every deed keeps is `Guard.Recalls`: the marker that is alive under a key, now or
later, is the one that was written last, as long as it lasts (`Recalls.perform`). So the answers of the guard follow the
writes (`Recalls.verdict`), and a deed that writes nothing under a key changes no answer about it
(`Recalls.verdict_skip`), although a lookup may remove an expired marker from the cache. `answers_follow_writes` states
it all.
-/

namespace Courier.Guard

open Memory Traffic

/-- What can be done to the cache of the guard. -/
inductive Deed
  /-- A name is looked up. The cache answers, or fails for a reason. -/
  | check (uuid : String) (fault : Option String)
  /-- A name is marked. The cache takes the marker, or fails for a reason. -/
  | mark (uuid : String) (marker : Octets) (lifetime : Nat) (fault : Option String)
  /-- A marker is put under a key without the guard. -/
  | seed (key : String) (marker : Octets) (lifetime : Nat)
  | pass (span : Nat)

/-- What the guard says about a name. -/
def verdict (uuid : String) (fault : Option String) (s : Stores) : Except RelayError Bool :=
  ((check uuid).run (answerUnless fault) s).1

/-- The stores after a deed. -/
def perform (s : Stores) : Deed → Stores
  | .check uuid fault => ((check uuid).run (answerUnless fault) s).2
  | .mark uuid marker lifetime fault => ((mark uuid marker lifetime).run (answerUnless fault) s).2
  | .seed key marker lifetime => { s with cache := s.cache.keep s.now key marker lifetime }
  | .pass span => { s with now := s.now + span }

def performAll (s : Stores) (ds : List Deed) : Stores := ds.foldl perform s

/-! ## Writes -/

/-- A marker that was put under a key. -/
structure Write where
  key : String
  marker : Octets
  moment : Nat
  lifetime : Nat

/-- The moment after a deed that begins at a moment. -/
def Deed.ending (now : Nat) : Deed → Nat
  | .pass span => now + span
  | _ => now

/-- What a deed writes. A cache that fails takes nothing. -/
def Deed.write? (now : Nat) : Deed → Option Write
  | .mark uuid marker lifetime none => some ⟨Guard.key uuid, marker, now, lifetime⟩
  | .seed key marker lifetime => some ⟨key, marker, now, lifetime⟩
  | _ => none

/-- What is written from a moment on, in the order of time. -/
def writes (now : Nat) : List Deed → List Write
  | [] => []
  | d :: ds => (d.write? now).toList ++ writes (d.ending now) ds

/-- The last write under a key. -/
def latest? (ws : List Write) (key : String) : Option Write := ws.reverse.find? fun w => w.key == key

theorem latest?_eq_some_iff {ws : List Write} {key : String} {w : Write} :
    latest? ws key = some w ↔ ∃ before after, ws = before ++ w :: after ∧ w.key = key ∧ ∀ v ∈ after, v.key ≠ key := by
  rw [latest?, List.find?_eq_some_iff_append]
  constructor
  · rintro ⟨hw, as, bs, hws, has⟩
    refine ⟨bs.reverse, as.reverse, ?_, by simpa using hw, fun v hv => ?_⟩
    · rw [← List.reverse_reverse ws, hws]
      simp
    · simpa using has v (List.mem_reverse.mp hv)
  · rintro ⟨before, after, rfl, hw, hafter⟩
    refine ⟨by simpa using hw, after.reverse, before.reverse, by simp, fun v hv => ?_⟩
    simpa using hafter v (List.mem_reverse.mp hv)

theorem latest?_append (ws vs : List Write) (key : String) :
    latest? (ws ++ vs) key = (latest? vs key).or (latest? ws key) := by
  rw [latest?, List.reverse_append, List.find?_append]
  rfl

/-- The marker that was written last under a key, as long as it lasts. -/
def markerAt (ws : List Write) (key : String) (t : Nat) : Option Octets :=
  ((latest? ws key).filter fun w => t < w.moment + w.lifetime).map Write.marker

/-- A name is taken when the last marker under its key is not empty and has not expired. -/
theorem isTaken_markerAt_iff {ws : List Write} {key : String} {t : Nat} :
    isTaken (markerAt ws key t) = true ↔
      ∃ w, latest? ws key = some w ∧ w.marker ≠ [] ∧ t < w.moment + w.lifetime := by
  unfold markerAt
  cases latest? ws key with
  | none => simp [isTaken]
  | some w =>
    by_cases ht : t < w.moment + w.lifetime
    · simp [isTaken, Option.filter, ht]
    · simp [isTaken, Option.filter, ht]

/-- Writes under other keys do not count. -/
theorem markerAt_skip {ws skipped vs : List Write} {key : String} (h : ∀ w ∈ skipped, w.key ≠ key) (t : Nat) :
    markerAt (ws ++ skipped ++ vs) key t = markerAt (ws ++ vs) key t := by
  have hnone : latest? skipped key = none := by
    rw [latest?, List.find?_eq_none]
    intro w hw
    simpa using h w (List.mem_reverse.mp hw)
  unfold markerAt
  rw [latest?_append, latest?_append, latest?_append, hnone, Option.none_or]

theorem markerAt_append_self (ws : List Write) (w : Write) (t : Nat) :
    markerAt (ws ++ [w]) w.key t = if t < w.moment + w.lifetime then some w.marker else none := by
  have hlast : latest? [w] w.key = some w := by simp [latest?]
  rw [markerAt, latest?_append, hlast, Option.some_or]
  by_cases ht : t < w.moment + w.lifetime
  · simp [Option.filter, ht]
  · simp [Option.filter, ht]

/-! ## The cache recalls the last write -/

/-- The marker that is alive under a key, now or later, is the one that was written last. -/
def Recalls (s : Stores) (ws : List Write) : Prop :=
  ∀ key t, s.now ≤ t → s.cache.live? t key = markerAt ws key t

variable {s : Stores} {ws : List Write}

theorem Recalls.keep (h : Recalls s ws) (key : String) (marker : Octets) (lifetime : Nat) :
    Recalls { s with cache := s.cache.keep s.now key marker lifetime } (ws ++ [⟨key, marker, s.now, lifetime⟩]) := by
  intro other t ht
  by_cases hother : other = key
  · subst hother
    have hself := markerAt_append_self ws ⟨other, marker, s.now, lifetime⟩ t
    rw [hself]
    exact Cache.live?_keep_self _ _ _ _ _ _
  · have hne : ∀ w ∈ [(⟨key, marker, s.now, lifetime⟩ : Write)], w.key ≠ other := by
      intro w hw
      rw [List.mem_singleton.mp hw]
      exact Ne.symm hother
    have hskip : markerAt (ws ++ [_] ++ []) other t = markerAt (ws ++ []) other t := markerAt_skip hne t
    rw [List.append_nil, List.append_nil] at hskip
    rw [hskip, ← h other t ht]
    exact Cache.live?_keep_of_ne hother _ _ _ _ _

/-- Asking removes nothing but what nobody could see any more. -/
theorem Recalls.read (h : Recalls s ws) (key : String) :
    Recalls { s with cache := (s.cache.read s.now key).2 } ws := by
  intro other t ht
  rw [← h other t ht]
  exact Cache.live?_read ht _ _ _

/-- **One deed.** -/
theorem Recalls.perform (h : Recalls s ws) (d : Deed) : Recalls (perform s d) (ws ++ (d.write? s.now).toList) := by
  have hsilent : ws ++ [] = ws := List.append_nil ws
  cases d with
  | check uuid fault =>
    show Recalls _ (ws ++ [])
    rw [hsilent]
    cases fault with
    | none => exact h.read (Guard.key uuid)
    | some e => exact h
  | mark uuid marker lifetime fault =>
    cases fault with
    | none => exact h.keep (Guard.key uuid) marker lifetime
    | some e =>
      show Recalls s (ws ++ [])
      rwa [hsilent]
  | seed key marker lifetime => exact h.keep key marker lifetime
  | pass span =>
    show Recalls _ (ws ++ [])
    rw [hsilent]
    intro key t ht
    exact h key t (Nat.le_trans (Nat.le_add_right _ _) ht)

theorem perform_now (s : Stores) (d : Deed) : (perform s d).now = d.ending s.now := by
  cases d with
  | check uuid fault => cases fault <;> rfl
  | mark uuid marker lifetime fault => cases fault <;> rfl
  | seed key marker lifetime => rfl
  | pass span => rfl

theorem performAll_now (s : Stores) (ds : List Deed) : (performAll s ds).now = ds.foldl Deed.ending s.now := by
  induction ds generalizing s with
  | nil => rfl
  | cons d ds ih => rw [performAll, List.foldl_cons, ← performAll, ih, perform_now, List.foldl_cons]

/-- **A run.** -/
theorem Recalls.performAll (h : Recalls s ws) (ds : List Deed) :
    Recalls (performAll s ds) (ws ++ writes s.now ds) := by
  -- the writes so far vary along the induction, since every deed may add one
  induction ds generalizing s ws with
  | nil => rwa [writes, List.append_nil]
  | cons d ds ih =>
    have hmore := ih (h.perform d)
    rwa [perform_now, List.append_assoc] at hmore

/-! ## Answers -/

/-- A cache that recalls the last writes makes the guard answer from them. -/
theorem Recalls.verdict (h : Recalls s ws) (uuid : String) :
    verdict uuid none s = .ok (isTaken (markerAt ws (key uuid) s.now)) := by
  rw [← h (key uuid) s.now (Nat.le_refl _)]
  rfl

theorem verdict_of_fault (uuid e : String) (s : Stores) : verdict uuid (some e) s = .error (.guardDown e) := rfl

/-- A cache that recalls the same markers for a name makes the guard answer alike. -/
theorem Recalls.verdict_congr {s' : Stores} {ws' : List Write} (h : Recalls s ws) (h' : Recalls s' ws')
    (hnow : s'.now = s.now) {uuid : String} (hws : ∀ t, markerAt ws' (key uuid) t = markerAt ws (key uuid) t)
    (fault : Option String) : Guard.verdict uuid fault s' = Guard.verdict uuid fault s := by
  cases fault with
  | none => rw [h.verdict, h'.verdict, hws, hnow]
  | some e => rw [verdict_of_fault, verdict_of_fault]

/-- A deed that takes no time and writes nothing under the key of a name changes no later answer about the name. -/
theorem Recalls.verdict_skip (h : Recalls s ws) {d : Deed} (hd : d.ending s.now = s.now) {uuid : String}
    (hw : ∀ w, d.write? s.now = some w → w.key ≠ key uuid) (es : List Deed) (fault : Option String) :
    Guard.verdict uuid fault (Guard.performAll (Guard.perform s d) es) =
      Guard.verdict uuid fault (Guard.performAll s es) := by
  have hnow : (Guard.perform s d).now = s.now := by rw [perform_now, hd]
  have hskipped := (h.perform d).performAll es
  rw [hnow] at hskipped
  refine (h.performAll es).verdict_congr hskipped ?_ (markerAt_skip fun w hmem => ?_) fault
  · rw [performAll_now, performAll_now, hnow]
  · exact hw w (Option.mem_toList.mp hmem)

/-- The stores with nothing in the cache. -/
def emptied (s : Stores) : Stores := { s with cache := [] }

theorem recalls_emptied (s : Stores) : Recalls (emptied s) [] := fun _ _ _ => rfl

/-- **The guard answers from what was written last.** Let names be looked up and marked in any order, markers be put
under any keys without the guard, time pass, and the cache fail now and then, beginning with an empty cache. A cache
that does not fail then tells that a name is taken if and only if the last marker that was written under its key is not
empty and has not expired. A lookup changes no later answer, and neither does a marker that is written for another name
or under another key. A cache that fails is reported by a lookup and by a marking, and changes no later answer. -/
theorem answers_follow_writes (s₀ : Stores) (ds : List Deed) :
    let s := performAll (emptied s₀) ds
    (∀ uuid, ∃ taken, verdict uuid none s = .ok taken ∧ (taken = true ↔
      ∃ before w after, writes s₀.now ds = before ++ w :: after ∧ w.key = key uuid ∧ (∀ v ∈ after, v.key ≠ key uuid) ∧
        w.marker ≠ [] ∧ s.now < w.moment + w.lifetime)) ∧
    (∀ uuid fault other fault' es, verdict other fault' (performAll (perform s (.check uuid fault)) es) =
      verdict other fault' (performAll s es)) ∧
    (∀ uuid marker lifetime fault other fault' es, other ≠ uuid →
      verdict other fault' (performAll (perform s (.mark uuid marker lifetime fault)) es) =
        verdict other fault' (performAll s es)) ∧
    (∀ k marker lifetime other fault' es, key other ≠ k →
      verdict other fault' (performAll (perform s (.seed k marker lifetime)) es) =
        verdict other fault' (performAll s es)) ∧
    (∀ uuid e, verdict uuid (some e) s = .error (.guardDown e)) ∧
    ∀ uuid marker lifetime e, ((mark uuid marker lifetime).run (answerUnless (some e)) s).1 = .error (.guardDown e) ∧
      ∀ other fault' es, verdict other fault' (performAll (perform s (.mark uuid marker lifetime (some e))) es) =
        verdict other fault' (performAll s es) := by
  intro s
  have hs : Recalls s (writes s₀.now ds) := (recalls_emptied s₀).performAll ds
  refine ⟨fun uuid => ⟨_, hs.verdict uuid, ?_⟩, ?_, ?_, ?_, fun uuid e => verdict_of_fault uuid e s, ?_⟩
  · rw [isTaken_markerAt_iff]
    constructor
    · rintro ⟨w, hw, hlasts⟩
      obtain ⟨before, after, hws, hkey, hafter⟩ := latest?_eq_some_iff.mp hw
      exact ⟨before, w, after, hws, hkey, hafter, hlasts⟩
    · rintro ⟨before, w, after, hws, hkey, hafter, hlasts⟩
      exact ⟨w, latest?_eq_some_iff.mpr ⟨before, after, hws, hkey, hafter⟩, hlasts⟩
  · intro uuid fault other fault' es
    exact hs.verdict_skip rfl (fun w hw => by cases hw) es fault'
  · intro uuid marker lifetime fault other fault' es hne
    refine hs.verdict_skip rfl (fun w hw => ?_) es fault'
    cases fault with
    | some e => cases hw
    | none =>
      cases hw
      exact fun hk => hne (key_injective hk).symm
  · intro k marker lifetime other fault' es hne
    refine hs.verdict_skip rfl (fun w hw => ?_) es fault'
    cases hw
    exact Ne.symm hne
  · intro uuid marker lifetime e
    exact ⟨rfl, fun other fault' es => hs.verdict_skip rfl (fun w hw => by cases hw) es fault'⟩

/-- A marker gives way to one that lasts less long, and the cache refuses a third. -/
def reseeded : List Deed :=
  [.mark "a" [1] 10 none, .check "a" none, .pass 4, .seed (key "a") [2] 3, .mark "a" [3] 50 (some "read only"), .pass 2]

theorem answers_follow_writes_reseeded :
    verdict "a" none (performAll (emptied (.ofChannels [])) reseeded) = .ok true ∧
    ("b" ≠ "a" ∧ verdict "b" none (performAll (perform (performAll (emptied (.ofChannels [])) reseeded)
      (.mark "a" [4] 9 none)) [.pass 3]) =
        verdict "b" none (performAll (performAll (emptied (.ofChannels [])) reseeded) [.pass 3])) ∧
    (key "a" ≠ "a" ∧ verdict "a" none (performAll (perform (performAll (emptied (.ofChannels [])) reseeded)
      (.seed "a" [] 9)) [.pass 1]) =
        verdict "a" none (performAll (performAll (emptied (.ofChannels [])) reseeded) [.pass 1])) := by
  obtain ⟨htold, -, hmark, hseed, -⟩ := answers_follow_writes (.ofChannels []) reseeded
  obtain ⟨taken, hverdict, htaken⟩ := htold "a"
  have hlast : taken = true := htaken.mpr ⟨[⟨key "a", [1], 0, 10⟩], ⟨key "a", [2], 4, 3⟩, [], rfl, rfl, nofun,
    by decide, by decide⟩
  have hname : "b" ≠ "a" := by decide
  have hkey : key "a" ≠ "a" := by decide
  exact ⟨by rw [hverdict, hlast], ⟨hname, hmark "a" [4] 9 none "b" none [.pass 3] hname⟩,
    ⟨hkey, hseed "a" [] 9 "a" none [.pass 1] hkey⟩⟩

end Courier.Guard
