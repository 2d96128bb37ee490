import Courier.Proofs.GuardedTraffic

/-!
# The window in which submissions are suppressed

The guard asks and tells in two calls, so it does not keep two hand-offs of one name apart. What it does guarantee in
any traffic is stated exactly by `suppression_window`: a hand-off that asks at a moment is turned away if and only if
some hand-off of the same name was admitted before and its marker has not expired by then (`rejects_iff`). So two
hand-offs of a name that are both admitted within one lifetime overlap (`asked_before_admitted`), and those that do not
overlap are admitted at least a lifetime apart (`admitted_apart`).
-/

namespace Courier

open Memory

namespace Traffic

variable {lifetime : Nat} {T : Traffic} {σ : Type}

/-- With the replies that it still gets, a hand-off ends as one that has been submitted already, and never writes to the
cache or to a queue. -/
def Rejects (T : Traffic) (id : Nat) (answer : Plan.Responder σ) (s : σ) : Prop :=
  ∃ job, T.jobs id = some job ∧ (job.rest.run answer s).1 = .error (.alreadySubmitted job.handoff.uuid) ∧
    ∀ x ∈ T.history id ++ job.rest.exchanges answer s, ¬ x.call.Writes

theorem mem_history {e : Entry} (he : e ∈ T.log) : e.exchange ∈ T.history e.job :=
  List.mem_map_of_mem (List.mem_filter.mpr ⟨he, beq_self_eq_true _⟩)

theorem exists_entry {id : Nat} {x : Exchange} (hx : x ∈ T.history id) : ∃ t, (⟨id, t, x⟩ : Entry) ∈ T.log := by
  obtain ⟨e, he, rfl⟩ := List.mem_map.mp hx
  obtain ⟨hmem, hid⟩ := List.mem_filter.mp he
  exact ⟨e.moment, by rw [← beq_iff_eq.mp hid]; exact hmem⟩

/-- Whatever replies it still gets, a hand-off is turned away exactly when it learnt that its name is taken. -/
theorem Sound.rejects_iff_taken (hT : Sound lifetime T) {i : Nat} {job : Job} (hj : T.jobs i = some job)
    {m : Option Octets} (hm : job.handoff.lookedUp (.ok m) ∈ T.history i) (answer : Plan.Responder σ) (s : σ) :
    T.Rejects i answer s ↔ Guard.isTaken m = true := by
  have htaken := ((hT.progress i job hj).unfolds (job.rest.unfolds_run answer s)).taken_iff (List.mem_append_left _ hm)
  constructor
  · rintro ⟨job', hj', hr⟩
    obtain rfl : job = job' := Option.some.inj (hj.symm.trans hj')
    exact htaken.mpr hr
  · intro ht
    exact ⟨job, hj, htaken.mp ht⟩

/-- What suppresses a name in a part of the log is the admission of a hand-off of that name. -/
theorem Sound.suppressed_iff (hT : Sound lifetime T) {log : List Entry} (hlog : ∀ e ∈ log, e ∈ T.log) {uuid : String}
    {t : Nat} :
    Suppressed lifetime log uuid t ↔ ∃ k other s, T.jobs k = some other ∧ other.handoff.uuid = uuid ∧
      (⟨k, s, other.handoff.marked (.ok ())⟩ : Entry) ∈ log ∧ t < s + lifetime := by
  constructor
  · rintro ⟨⟨k, s, x⟩, he, ha, hlt⟩
    obtain ⟨other, hk⟩ := Option.isSome_iff_exists.mp (hT.known _ (hlog _ he))
    obtain ⟨rfl, rfl⟩ := (hT.progress k other hk).eq_marked (mem_history (hlog _ he)) ha
    exact ⟨k, other, s, hk, rfl, he, hlt⟩
  · rintro ⟨k, other, s, hk, rfl, he, hlt⟩
    refine ⟨_, he, ⟨other.handoff.body, ?_⟩, hlt⟩
    rw [← (hT.proper k other hk).1]
    rfl

/-- **The window.** A hand-off that asks the guard is turned away, whatever replies it gets after that, exactly when its
name was admitted before and the marker has not expired. -/
theorem Guarded.rejects_iff (hg : Guarded lifetime T) (hT : Sound lifetime T) {i : Nat} {job : Job}
    (hj : T.jobs i = some job) {before after : List Entry} {t : Nat} {m : Option Octets}
    (hlog : T.log = before ++ ⟨i, t, job.handoff.lookedUp (.ok m)⟩ :: after) (answer : Plan.Responder σ) (st : σ) :
    T.Rejects i answer st ↔ ∃ k other s, T.jobs k = some other ∧ other.handoff.uuid = job.handoff.uuid ∧
      (⟨k, s, other.handoff.marked (.ok ())⟩ : Entry) ∈ before ∧ t < s + lifetime := by
  have hmem : (⟨i, t, job.handoff.lookedUp (.ok m)⟩ : Entry) ∈ T.log := by rw [hlog]; simp
  rw [hT.rejects_iff_taken hj (mem_history hmem) answer st, hg.answers before _ after _ m hlog rfl]
  exact hT.suppressed_iff fun e he => by rw [hlog]; exact List.mem_append_left _ he

/-- An admission follows an answer of the guard, to the same hand-off, that the name is free. -/
theorem Sound.asked_before (hT : Sound lifetime T) {k : Nat} {other : Job} (hk : T.jobs k = some other)
    {before after : List Entry} {t : Nat} (hlog : T.log = before ++ ⟨k, t, other.handoff.marked (.ok ())⟩ :: after) :
    ∃ m u, Guard.isTaken m = false ∧ (⟨k, u, other.handoff.lookedUp (.ok m)⟩ : Entry) ∈ before := by
  have hp := hT.progress k other hk
  have hhist : T.history k = (before.filter fun e => e.job == k).map Entry.exchange ++
      other.handoff.marked (.ok ()) :: (after.filter fun e => e.job == k).map Entry.exchange := by
    simp [history, hlog, List.filter_append]
  rw [hhist] at hp
  obtain ⟨m, hm, hb, -⟩ := hp.before_marker
  obtain ⟨e, he, hx⟩ := List.mem_map.mp (show other.handoff.lookedUp (.ok m) ∈ _ by rw [hb]; simp)
  obtain ⟨hmem, hid⟩ := List.mem_filter.mp he
  obtain rfl := beq_iff_eq.mp hid
  exact ⟨m, e.moment, hm, by rw [← hx]; exact hmem⟩

/-- Of two admissions of a name within one lifetime, the later hand-off had asked before the earlier was admitted. -/
theorem Guarded.asked_before_admitted (hg : Guarded lifetime T) (hT : Sound lifetime T) {i k : Nat} {job other : Job}
    (hj : T.jobs i = some job) (hk : T.jobs k = some other) (hu : other.handoff.uuid = job.handoff.uuid)
    {first between last : List Entry} {s t : Nat}
    (hlog : T.log = first ++ ⟨i, s, job.handoff.marked (.ok ())⟩ :: between ++
      ⟨k, t, other.handoff.marked (.ok ())⟩ :: last) (hlt : t < s + lifetime) :
    ∃ m u, (⟨k, u, other.handoff.lookedUp (.ok m)⟩ : Entry) ∈ first := by
  obtain ⟨m, u, hm, he⟩ := hT.asked_before hk hlog
  rcases List.mem_append.mp he with he | he
  · exact ⟨m, u, he⟩
  rcases List.mem_cons.mp he with he | he
  · have hx := congrArg Entry.exchange he
    simp [Handoff.lookedUp, Handoff.marked] at hx
  · -- the later hand-off would have seen the marker of the earlier one
    exfalso
    obtain ⟨b₁, b₂, rfl⟩ := List.append_of_mem he
    have hordered := hT.ordered
    have hlog' : T.log = (first ++ ⟨i, s, job.handoff.marked (.ok ())⟩ :: b₁) ++
        ⟨k, u, other.handoff.lookedUp (.ok m)⟩ :: (b₂ ++ ⟨k, t, other.handoff.marked (.ok ())⟩ :: last) := by
      rw [hlog]
      simp
    have hut : u ≤ t := by
      rw [hlog'] at hordered
      have h := (List.pairwise_append.mp hordered).2.1
      exact (List.pairwise_cons.mp h).1 ⟨k, t, other.handoff.marked (.ok ())⟩ (by simp)
    have htaken := (hg.answers _ _ _ other.handoff.uuid m hlog' rfl).mpr
      ⟨⟨i, s, job.handoff.marked (.ok ())⟩, by simp,
        ⟨job.handoff.body, by rw [hu, ← (hT.proper i job hj).1]; rfl⟩, by simp only; omega⟩
    rw [hm] at htaken
    cases htaken

/-- Hand-offs of a name that do not overlap are admitted at least a lifetime apart, if both reach the queue. -/
theorem Guarded.admitted_apart (hg : Guarded lifetime T) (hT : Sound lifetime T) {i k : Nat} {job other : Job}
    (hj : T.jobs i = some job) (hk : T.jobs k = some other) (hu : other.handoff.uuid = job.handoff.uuid)
    {first last : List Entry} (hlog : T.log = first ++ last) (hfirst : ∀ e ∈ first, e.job ≠ k)
    (hlast : ∀ e ∈ last, e.job ≠ i) (hi : job.handoff.sent (.ok ()) ∈ T.history i)
    (hk' : other.handoff.sent (.ok ()) ∈ T.history k) :
    ∃ s t, (⟨i, s, job.handoff.marked (.ok ())⟩ : Entry) ∈ first ∧
      (⟨k, t, other.handoff.marked (.ok ())⟩ : Entry) ∈ last ∧ s + lifetime ≤ t := by
  obtain ⟨s, hs⟩ := exists_entry ((hT.progress i job hj).marked_of_sent hi)
  obtain ⟨t, ht⟩ := exists_entry ((hT.progress k other hk).marked_of_sent hk')
  rw [hlog] at hs ht
  have hs' := (List.mem_append.mp hs).resolve_right fun h => hlast _ h rfl
  have ht' := (List.mem_append.mp ht).resolve_left fun h => hfirst _ h rfl
  refine ⟨s, t, hs', ht', Nat.le_of_not_lt fun hlt => ?_⟩
  obtain ⟨a, b, rfl⟩ := List.append_of_mem hs'
  obtain ⟨c, d, rfl⟩ := List.append_of_mem ht'
  have hlog' : T.log = a ++ ⟨i, s, job.handoff.marked (.ok ())⟩ :: (b ++ c) ++
      ⟨k, t, other.handoff.marked (.ok ())⟩ :: d := by
    rw [hlog]
    simp
  obtain ⟨m, u, he⟩ := hg.asked_before_admitted hT hj hk hu hlog' hlt
  exact hfirst _ (List.mem_append_left _ he) rfl

/-- **What the guard guarantees in any traffic** that starts with an empty cache. A hand-off that asks the guard and
gets an answer is turned away and writes nothing, whatever replies it gets after that, if and only if a hand-off of
exactly its name was admitted before and that marker has not expired. Two hand-offs of a name admitted within one
lifetime overlap: the later asked before the earlier was admitted. Hand-offs of a name that do not overlap and both
reach the queue are admitted at least a lifetime apart. -/
theorem suppression_window (lifetime : Nat) (s₀ : Stores) (ms : List Move) :
    let T := (opened s₀).run lifetime ms
    (∀ i job before t m after, T.jobs i = some job → T.log = before ++ ⟨i, t, job.handoff.lookedUp (.ok m)⟩ :: after →
      ∀ (σ : Type) (answer : Plan.Responder σ) (st : σ),
        (T.Rejects i answer st ↔ ∃ k other s, T.jobs k = some other ∧ other.handoff.uuid = job.handoff.uuid ∧
          (⟨k, s, other.handoff.marked (.ok ())⟩ : Entry) ∈ before ∧ t < s + lifetime)) ∧
    (∀ i k job other first between last s t, T.jobs i = some job → T.jobs k = some other →
      other.handoff.uuid = job.handoff.uuid →
      T.log = first ++ ⟨i, s, job.handoff.marked (.ok ())⟩ :: between ++
        ⟨k, t, other.handoff.marked (.ok ())⟩ :: last → t < s + lifetime →
      ∃ m u, (⟨k, u, other.handoff.lookedUp (.ok m)⟩ : Entry) ∈ first) ∧
    (∀ i k job other first last, T.jobs i = some job → T.jobs k = some other →
      other.handoff.uuid = job.handoff.uuid → T.log = first ++ last → (∀ e ∈ first, e.job ≠ k) →
      (∀ e ∈ last, e.job ≠ i) → job.handoff.sent (.ok ()) ∈ T.history i →
      other.handoff.sent (.ok ()) ∈ T.history k →
      ∃ s t, (⟨i, s, job.handoff.marked (.ok ())⟩ : Entry) ∈ first ∧
        (⟨k, t, other.handoff.marked (.ok ())⟩ : Entry) ∈ last ∧ s + lifetime ≤ t) := by
  intro T
  have hT : Sound lifetime T := (opened_sound s₀).run ms
  have hg : Guarded lifetime T := (opened_guarded s₀).run (opened_sound s₀) ms
  refine ⟨?_, ?_, ?_⟩
  · intro i job before t m after hj hlog σ answer st
    exact hg.rejects_iff hT hj hlog answer st
  · intro i k job other first between last s t hj hk hu hlog hlt
    exact hg.asked_before_admitted hT hj hk hu hlog hlt
  · intro i k job other first last hj hk hu hlog hfirst hlast hi hk'
    exact hg.admitted_apart hT hj hk hu hlog hfirst hlast hi hk'

def plainNotification (uuid : String) : Notification :=
  ⟨uuid, "Payment", "paid", .empty, ⟨"approved", "EUR", "ann", "bob", "transfer", 1, 100⟩, 0⟩

/-- Two hand-offs of one name ask before either is admitted; a third asks in the window and a fourth after it. -/
def rivalMoves : List Move :=
  [.begin 0 "q" (plainNotification "a"), .begin 1 "q" (plainNotification "a"), .advance 1 0 none, .advance 0 0 none,
    .advance 0 0 none, .advance 0 0 none, .pass 5, .advance 1 0 none, .begin 2 "q" (plainNotification "a"), .pass 4,
    .advance 2 0 none, .pass 6, .begin 3 "q" (plainNotification "a"), .advance 3 0 none, .advance 3 0 none,
    .advance 3 0 none]

def rivals : Traffic := (opened (.ofChannels [])).run 10 rivalMoves

theorem suppression_window_rivals :
    (∃ job m, rivals.jobs 2 = some job ∧
      rivals.log = rivals.log.take 5 ++ ⟨2, 9, job.handoff.lookedUp (.ok m)⟩ :: rivals.log.drop 6 ∧
      rivals.Rejects 2 Stores.answer rivals.stores) ∧
    (∃ first other u m, rivals.jobs 1 = some other ∧ first = rivals.log.take 2 ∧
      (⟨1, u, other.handoff.lookedUp (.ok m)⟩ : Entry) ∈ first) ∧
    ∃ job other s t, rivals.jobs 0 = some job ∧ rivals.jobs 3 = some other ∧
      (⟨0, s, job.handoff.marked (.ok ())⟩ : Entry) ∈ rivals.log.take 6 ∧
      (⟨3, t, other.handoff.marked (.ok ())⟩ : Entry) ∈ rivals.log.drop 6 ∧ s + 10 ≤ t := by
  obtain ⟨hwindow, hrace, happart⟩ := suppression_window 10 (.ofChannels []) rivalMoves
  refine ⟨⟨_, _, rfl, rfl, ?_⟩, ?_, ?_⟩
  · exact (hwindow 2 _ (rivals.log.take 5) 9 _ (rivals.log.drop 6) rfl rfl _ _ _).mpr
      ⟨0, _, 0, rfl, rfl, List.mem_of_getElem? (i := 2) rfl, by decide⟩
  · obtain ⟨m, u, h⟩ := hrace 0 1 _ _ (rivals.log.take 2) ((rivals.log.drop 3).take 1) (rivals.log.drop 5) 0 5 rfl rfl
      rfl rfl (by decide)
    exact ⟨_, _, u, m, rfl, rfl, h⟩
  · obtain ⟨s, t, hs, ht, hst⟩ := happart 0 3 _ _ (rivals.log.take 6) (rivals.log.drop 6) rfl rfl rfl rfl
      (by decide) (by decide) (List.mem_of_getElem? (i := 2) rfl)
      (List.mem_of_getElem? (i := 2) rfl)
    exact ⟨_, _, s, t, rfl, rfl, hs, ht, hst⟩

end Traffic

end Courier
