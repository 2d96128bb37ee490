import Courier.Proofs.Traffic

/-!
# What the guard knows in traffic

In any traffic the markers in the cache that are alive, now or later, are those of the admissions in the log, and every
answer of the guard was right when it was given. This is the invariant `Guarded`: every move keeps it
(`Guarded.advance`), and so does every run (`Guarded.run`). It rests on three things: different names have different
keys, markers are never empty, and a marker is gone at the moment at which it expires.
-/

namespace Courier

open Memory

/-- A list that ends with one element is cut before that element or at it. -/
theorem append_singleton_eq_cut {α : Type} {l before after : List α} {e f : α} (h : l ++ [e] = before ++ f :: after) :
    (before = l ∧ f = e) ∨ ∃ after', l = before ++ f :: after' := by
  rcases List.eq_nil_or_concat after with rfl | ⟨after', g, rfl⟩
  · obtain ⟨h1, h2⟩ := List.append_inj' h rfl
    exact .inl ⟨h1.symm, (List.singleton_inj.mp h2).symm⟩
  · rw [List.concat_eq_append, ← List.cons_append, ← List.append_assoc] at h
    exact .inr ⟨after', (List.append_inj' h rfl).1⟩

namespace Exchange

theorem not_admits_of_call {lifetime : Nat} {uuid : String} {x : Exchange} (h : ∀ k m l, x.call ≠ .keepMarker k m l) :
    ¬ x.Admits lifetime uuid := by
  rintro ⟨m, rfl⟩
  exact h _ _ _ rfl

theorem not_admits_of_failed {lifetime : Nat} {uuid : String} {x : Exchange} (h : x.isOk = false) :
    ¬ x.Admits lifetime uuid := by
  rintro ⟨m, rfl⟩
  cases h

/-- A marker that is kept admits the name of its key only. -/
theorem admits_iff {lifetime : Nat} {u v : String} {m : Octets} :
    Admits lifetime u ⟨.keepMarker (Guard.key v) m lifetime, .ok ()⟩ ↔ u = v := by
  constructor
  · rintro ⟨m', h⟩
    have hc := congrArg Exchange.call h
    injection hc with hk
    exact (Guard.key_injective hk).symm
  · rintro rfl
    exact ⟨m, rfl⟩

/-- An answer of the guard tells which name it is about. -/
theorem lookedUp_inj {u v : String} {r : Call.Reply (.readMarker (Guard.key v))} {m : Option Octets}
    (h : (⟨.readMarker (Guard.key v), r⟩ : Exchange) = ⟨.readMarker (Guard.key u), .ok m⟩) : v = u ∧ r = .ok m := by
  have hc := congrArg Exchange.call h
  injection hc with hk
  obtain rfl := Guard.key_injective hk
  injection h with _ hr
  exact ⟨rfl, hr⟩

end Exchange

namespace Traffic

variable {lifetime : Nat} {T : Traffic}

/-- A name was admitted in a log, and is still suppressed at a moment. -/
def Suppressed (lifetime : Nat) (log : List Entry) (uuid : String) (t : Nat) : Prop :=
  ∃ e ∈ log, e.exchange.Admits lifetime uuid ∧ t < e.moment + lifetime

theorem suppressed_append {log : List Entry} {e : Entry} {uuid : String} {t : Nat} :
    Suppressed lifetime (log ++ [e]) uuid t ↔
      Suppressed lifetime log uuid t ∨ (e.exchange.Admits lifetime uuid ∧ t < e.moment + lifetime) := by
  constructor
  · rintro ⟨f, hf, ha⟩
    rcases List.mem_append.mp hf with hf | hf
    · exact .inl ⟨f, hf, ha⟩
    · rw [List.mem_singleton.mp hf] at ha
      exact .inr ha
  · rintro (⟨f, hf, ha⟩ | ha)
    · exact ⟨f, List.mem_append_left _ hf, ha⟩
    · exact ⟨e, List.mem_append_right _ List.mem_cons_self, ha⟩

/-- The cache says what the log says, and has always done so. -/
structure Guarded (lifetime : Nat) (T : Traffic) : Prop where
  /-- The names that are taken, now or later, are those that are suppressed. -/
  window : ∀ u t, T.stores.now ≤ t →
    (Guard.isTaken (T.stores.cache.live? t (Guard.key u)) = true ↔ Suppressed lifetime T.log u t)
  /-- Whoever asked the guard learnt whether the name was suppressed at that moment. -/
  answers : ∀ before e after u m, T.log = before ++ e :: after → e.exchange = ⟨.readMarker (Guard.key u), .ok m⟩ →
    (Guard.isTaken m = true ↔ Suppressed lifetime before u e.moment)

theorem opened_guarded (s : Stores) : Guarded lifetime (opened s) where
  window u t _ := by
    constructor
    · intro h
      cases h
    · rintro ⟨e, he, -⟩
      cases he
  answers before e after u m h := by
    cases before <;> cases h

/-- An exchange keeps the guard right if what it does to the cache is what it says in the log. -/
theorem Guarded.append (hT : Guarded lifetime T) {stores : Stores} {jobs : Nat → Option Job} {e : Entry}
    (hnow : stores.now = T.stores.now)
    (hlive : ∀ u t, T.stores.now ≤ t → (Guard.isTaken (stores.cache.live? t (Guard.key u)) = true ↔
      Guard.isTaken (T.stores.cache.live? t (Guard.key u)) = true ∨
        (e.exchange.Admits lifetime u ∧ t < e.moment + lifetime)))
    (hanswer : ∀ u m, e.exchange = ⟨.readMarker (Guard.key u), .ok m⟩ →
      (Guard.isTaken m = true ↔ Suppressed lifetime T.log u e.moment)) :
    Guarded lifetime ⟨stores, jobs, T.log ++ [e]⟩ where
  window u t ht := by
    have ht' : T.stores.now ≤ t := hnow ▸ ht
    rw [suppressed_append, ← hT.window u t ht']
    exact hlive u t ht'
  answers before f after u m h hf := by
    rcases append_singleton_eq_cut h with ⟨rfl, rfl⟩ | ⟨after', h'⟩
    · exact hanswer u m hf
    · exact hT.answers before f after' u m h' hf

/-- An exchange that tells the guard nothing, and no answer of the guard, keeps the guard right. -/
theorem Guarded.append_silent (hT : Guarded lifetime T) {stores : Stores} {jobs : Nat → Option Job} {e : Entry}
    (hnow : stores.now = T.stores.now) (hcache : stores.cache = T.stores.cache)
    (hadmits : ∀ u, ¬ e.exchange.Admits lifetime u)
    (hanswer : ∀ u m, e.exchange ≠ ⟨.readMarker (Guard.key u), .ok m⟩) :
    Guarded lifetime ⟨stores, jobs, T.log ++ [e]⟩ := by
  refine hT.append hnow (fun u t _ => ?_) fun u m h => absurd h (hanswer u m)
  rw [hcache]
  exact ⟨.inl, fun h => h.resolve_right fun ha => hadmits u ha.1⟩

theorem Guarded.append_answer (hT : Guarded lifetime T) {jobs : Nat → Option Job} {id : Nat} {v : String} :
    Guarded lifetime ⟨(T.stores.answer (.readMarker (Guard.key v))).2, jobs,
      T.log ++ [⟨id, T.stores.now, ⟨.readMarker (Guard.key v), (T.stores.answer (.readMarker (Guard.key v))).1⟩⟩]⟩ := by
  refine hT.append rfl (fun u t ht => ?_) fun u m h => ?_
  · have hsame : (T.stores.answer (.readMarker (Guard.key v))).2.cache.live? t (Guard.key u) =
        T.stores.cache.live? t (Guard.key u) := Cache.live?_read ht _ _ _
    have hn : ¬ Exchange.Admits lifetime u
        ⟨.readMarker (Guard.key v), (T.stores.answer (.readMarker (Guard.key v))).1⟩ :=
      Exchange.not_admits_of_call fun _ _ _ => nofun
    rw [hsame]
    exact ⟨.inl, fun h => h.resolve_right fun ha => hn ha.1⟩
  · obtain ⟨rfl, hr⟩ := Exchange.lookedUp_inj h
    have hm : T.stores.cache.live? T.stores.now (Guard.key v) = m := Except.ok.inj hr
    rw [← hm]
    exact hT.window v T.stores.now (Nat.le_refl _)

/-- A marker that is kept, and not empty, keeps the guard right. -/
theorem Guarded.append_marker (hT : Guarded lifetime T) (hs : Sound lifetime T) {jobs : Nat → Option Job} {id : Nat}
    {v : String} {m : Octets} (hm : m ≠ []) :
    Guarded lifetime ⟨(T.stores.answer (.keepMarker (Guard.key v) m lifetime)).2, jobs,
      T.log ++ [⟨id, T.stores.now, ⟨.keepMarker (Guard.key v) m lifetime, .ok ()⟩⟩]⟩ := by
  refine hT.append rfl (fun u t ht => ?_) fun u m h => ?_
  · show Guard.isTaken ((T.stores.cache.keep T.stores.now (Guard.key v) m lifetime).live? t (Guard.key u)) = true ↔ _
    rw [Exchange.admits_iff]
    by_cases huv : u = v
    · subst huv
      rw [Cache.live?_keep_self]
      by_cases hlt : t < T.stores.now + lifetime
      · simp [hlt, Guard.isTaken, hm]
      · -- all earlier markers have expired as well
        have hgone : ¬ Suppressed lifetime T.log u t := by
          rintro ⟨e, he, -, hlt'⟩
          have := hs.past e he
          omega
        rw [← hT.window u t ht] at hgone
        simp only [hlt, and_false, or_false]
        exact iff_of_false Bool.false_ne_true hgone
    · have hk : Guard.key u ≠ Guard.key v := fun h => huv (Guard.key_injective h)
      rw [Cache.live?_keep_of_ne hk]
      simp [huv]
  · have hc := congrArg Exchange.call h
    cases hc

/-- Every reply to a hand-off keeps the guard right. -/
theorem Guarded.advance (hT : Guarded lifetime T) (hs : Sound lifetime T) (id j : Nat) (fault : Option String) :
    Guarded lifetime (T.advance id j fault) := by
  rcases T.advance_cases id j fault with he | ⟨job, c, k, hj, hn, he⟩
  · rw [he]
    exact hT
  rw [he]
  cases fault with
  | some x =>
    refine hT.append_silent rfl rfl (fun u => Exchange.not_admits_of_failed rfl) fun u m h => ?_
    have hok := congrArg Exchange.isOk h
    cases hok
  | none =>
    obtain ⟨hl, hb⟩ := hs.proper id job hj
    rcases (hs.progress id job hj).call_cases hn with rfl | rfl | rfl | ⟨e, rfl⟩
    · exact hT.append_answer
    · rw [hl]
      exact hT.append_marker hs hb
    · refine hT.append_silent rfl rfl (fun u => Exchange.not_admits_of_call fun _ _ _ => nofun) fun u m h => ?_
      have hc := congrArg Exchange.call h
      cases hc
    · refine hT.append_silent rfl rfl (fun u => Exchange.not_admits_of_call fun _ _ _ => nofun) fun u m h => ?_
      have hc := congrArg Exchange.call h
      cases hc

theorem Guarded.begin (hT : Guarded lifetime T) (id : Nat) (h : Handoff) : Guarded lifetime (T.begin id h) := by
  rcases T.begin_cases id h with he | ⟨-, he⟩
  · rw [he]
    exact hT
  · rw [he]
    exact ⟨hT.window, hT.answers⟩

theorem Guarded.pass (hT : Guarded lifetime T) (span : Nat) : Guarded lifetime (T.pass span) where
  window u t ht := hT.window u t (Nat.le_trans (Nat.le_add_right _ _) ht)
  answers := hT.answers

theorem Guarded.run (hT : Guarded lifetime T) (hs : Sound lifetime T) (ms : List Move) :
    Guarded lifetime (T.run lifetime ms) := by
  induction ms generalizing T with
  | nil => exact hT
  | cons m ms ih =>
    refine ih ?_ (hs.step m)
    cases m with
    | begin id topic n => exact hT.begin id _
    | advance id j fault => exact hT.advance hs id j fault
    | pass span => exact hT.pass span

end Traffic

end Courier
