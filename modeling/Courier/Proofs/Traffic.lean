import Courier.Memory.Stores
import Courier.Proofs.HandoffProgress
import Mathlib.Logic.Function.Basic

/-!
# Traffic

Any number of hand-offs on their way side by side, over the same stores. A move begins a hand-off, answers one call of
one hand-off, or lets time pass (`Traffic.step`); a call that is answered may fail for any reason, and then has no
effect. A move that cannot be made changes nothing, so a run is any list of moves. The log holds every exchange with its
hand-off and its moment.

What every run keeps is `Traffic.Sound`: each hand-off has made the progress that its part of the log tells
(`history`), and the log is in the order of time (`run_sound`).
-/

namespace Courier

open Memory

/-- A hand-off that has begun, and what is left of it. -/
structure Job where
  handoff : Handoff
  rest : Plan (Except RelayError Unit)

/-- An exchange of one of many hand-offs, and its moment. -/
structure Entry where
  job : Nat
  moment : Nat
  exchange : Exchange

/-- Hand-offs by their numbers, the stores that they share, and what has happened. -/
structure Traffic where
  stores : Stores
  jobs : Nat → Option Job
  log : List Entry

namespace Traffic

/-- What can happen next. -/
inductive Move
  /-- A hand-off of a notification to a topic begins, under a number that is free. -/
  | begin (id : Nat) (topic : String) (n : Notification)
  /-- One of the calls that a hand-off waits for is answered, or fails for a reason. -/
  | advance (id j : Nat) (fault : Option String)
  | pass (span : Nat)

/-- The stores as they answer a call that may fail. -/
def answerUnless (fault : Option String) : Plan.Responder Stores := fun c s =>
  match fault with
  | some e => (.error e, s)
  | none => s.answer c

/-- Nothing has begun. -/
def fresh (s : Stores) : Traffic := ⟨s, fun _ => none, []⟩

/-- Nothing has begun, and the cache is empty. -/
def opened (s : Stores) : Traffic := fresh { s with cache := [] }

def begin (T : Traffic) (id : Nat) (h : Handoff) : Traffic :=
  match T.jobs id with
  | some _ => T
  | none => { T with jobs := Function.update T.jobs id (some ⟨h, h.run⟩) }

def advance (T : Traffic) (id j : Nat) (fault : Option String) : Traffic :=
  match T.jobs id with
  | none => T
  | some job =>
    match job.rest.resume (answerUnless fault) j T.stores with
    | none => T
    | some (x, rest, stores) =>
      { stores := stores, jobs := Function.update T.jobs id (some { job with rest := rest })
        log := T.log ++ [⟨id, T.stores.now, x⟩] }

def pass (T : Traffic) (span : Nat) : Traffic := { T with stores := { T.stores with now := T.stores.now + span } }

/-- The traffic after a move, for a guard that keeps markers for a given time. -/
def step (lifetime : Nat) (T : Traffic) : Move → Traffic
  | .begin id topic n => T.begin id ((Submission.mk topic lifetime).handoff n)
  | .advance id j fault => T.advance id j fault
  | .pass span => T.pass span

def run (lifetime : Nat) (T : Traffic) (ms : List Move) : Traffic := ms.foldl (step lifetime) T

/-- The exchanges of one hand-off so far. -/
def history (T : Traffic) (id : Nat) : List Exchange := (T.log.filter fun e => e.job == id).map Entry.exchange

/-! ## What a move can do -/

/-- A reply to a hand-off changes nothing, or answers one of its calls. -/
theorem advance_cases (T : Traffic) (id j : Nat) (fault : Option String) :
    T.advance id j fault = T ∨ ∃ job c k, T.jobs id = some job ∧ job.rest.next? j = some ⟨c, k⟩ ∧
      T.advance id j fault =
        { stores := (answerUnless fault c T.stores).2
          jobs := Function.update T.jobs id (some { job with rest := k (answerUnless fault c T.stores).1 })
          log := T.log ++ [⟨id, T.stores.now, ⟨c, (answerUnless fault c T.stores).1⟩⟩] } := by
  unfold advance Plan.resume
  cases hj : T.jobs id with
  | none => exact .inl rfl
  | some job =>
    cases hn : job.rest.next? j with
    | none => exact .inl (by simp only [hn, Option.map_none])
    | some ck =>
      obtain ⟨c, k⟩ := ck
      exact .inr ⟨job, c, k, rfl, hn, by simp only [hn, Option.map_some]⟩

/-- A hand-off that begins changes nothing, or takes a number that is free. -/
theorem begin_cases (T : Traffic) (id : Nat) (h : Handoff) :
    T.begin id h = T ∨
      (T.jobs id = none ∧ T.begin id h = { T with jobs := Function.update T.jobs id (some ⟨h, h.run⟩) }) := by
  unfold begin
  cases hj : T.jobs id with
  | some job => exact .inl rfl
  | none => exact .inr ⟨rfl, rfl⟩

theorem answerUnless_now (fault : Option String) (c : Call) (s : Stores) : (answerUnless fault c s).2.now = s.now := by
  cases fault with
  | some e => rfl
  | none => cases c <;> rfl

/-- An entry becomes the last exchange of its hand-off and changes no other history. -/
theorem history_append (T : Traffic) (stores : Stores) (jobs : Nat → Option Job) (e : Entry) (i : Nat) :
    history ⟨stores, jobs, T.log ++ [e]⟩ i = T.history i ++ if e.job = i then [e.exchange] else [] := by
  by_cases h : e.job = i
  · simp [history, List.filter_append, h]
  · simp [history, List.filter_append, h]

/-! ## The invariant -/

/-- What every run keeps. -/
structure Sound (lifetime : Nat) (T : Traffic) : Prop where
  /-- Every hand-off has made the progress that the log tells. -/
  progress : ∀ i job, T.jobs i = some job → job.handoff.Progress (T.history i) job.rest
  /-- Every hand-off keeps its marker for the same time, and its marker is not empty. -/
  proper : ∀ i job, T.jobs i = some job → job.handoff.lifetime = lifetime ∧ job.handoff.body ≠ []
  /-- The log is about hand-offs that have begun. -/
  known : ∀ e ∈ T.log, (T.jobs e.job).isSome
  /-- The log is in the order of time. -/
  ordered : T.log.Pairwise fun e f => e.moment ≤ f.moment
  /-- The log is about the past. -/
  past : ∀ e ∈ T.log, e.moment ≤ T.stores.now

variable {lifetime : Nat} {T : Traffic}

/-- A job at a number is the one that was put there, or one that has been there before. -/
theorem update_eq_some {jobs : Nat → Option Job} {id i : Nat} {new job : Job}
    (h : Function.update jobs id (some new) i = some job) : (i = id ∧ job = new) ∨ (i ≠ id ∧ jobs i = some job) := by
  by_cases hid : i = id
  · subst hid
    rw [Function.update_self] at h
    exact .inl ⟨rfl, (Option.some.inj h).symm⟩
  · rw [Function.update_of_ne hid] at h
    exact .inr ⟨hid, h⟩

theorem fresh_sound (s : Stores) : Sound lifetime (fresh s) where
  progress i job h := by cases h
  proper i job h := by cases h
  known e he := by cases he
  ordered := .nil
  past e he := by cases he

theorem opened_sound (s : Stores) : Sound lifetime (opened s) := fresh_sound _

/-- A number that is free has no history. -/
theorem Sound.history_of_free (hT : Sound lifetime T) {i : Nat} (h : T.jobs i = none) : T.history i = [] := by
  refine List.map_eq_nil_iff.mpr (List.filter_eq_nil_iff.mpr fun e he heq => ?_)
  have hk := hT.known e he
  rw [beq_iff_eq.mp heq, h] at hk
  cases hk

theorem Sound.begin (hT : Sound lifetime T) (id : Nat) {h : Handoff} (hl : h.lifetime = lifetime)
    (hb : h.body ≠ []) : Sound lifetime (T.begin id h) := by
  rcases T.begin_cases id h with he | ⟨hfree, he⟩
  · rw [he]
    exact hT
  · rw [he]
    refine ⟨fun i job hi => ?_, fun i job hi => ?_, fun e hmem => ?_, hT.ordered, hT.past⟩
    · rcases update_eq_some hi with ⟨rfl, rfl⟩ | ⟨-, hi⟩
      · have hh : history { T with jobs := Function.update T.jobs i (some ⟨h, h.run⟩) } i = [] :=
          hT.history_of_free hfree
        rw [hh]
        exact .begun
      · exact hT.progress i job hi
    · rcases update_eq_some hi with ⟨-, rfl⟩ | ⟨-, hi⟩
      · exact ⟨hl, hb⟩
      · exact hT.proper i job hi
    · by_cases hid : e.job = id
      · simp [hid]
      · simpa [Function.update_of_ne hid] using hT.known e hmem

theorem Sound.advance (hT : Sound lifetime T) (id j : Nat) (fault : Option String) :
    Sound lifetime (T.advance id j fault) := by
  rcases T.advance_cases id j fault with he | ⟨job, c, k, hj, hn, he⟩
  · rw [he]
    exact hT
  · rw [he]
    refine ⟨fun i job' hi => ?_, fun i job' hi => ?_, fun e hmem => ?_, ?_, fun e hmem => ?_⟩
    · -- one hand-off has got on, and the histories of the others are as before
      rw [history_append]
      rcases update_eq_some hi with ⟨rfl, rfl⟩ | ⟨hid, hi⟩
      · rw [if_pos rfl]
        exact (hT.progress i job hj).next? hn _
      · rw [if_neg (Ne.symm hid), List.append_nil]
        exact hT.progress i job' hi
    · rcases update_eq_some hi with ⟨-, rfl⟩ | ⟨-, hi⟩
      · exact hT.proper id job hj
      · exact hT.proper i job' hi
    · by_cases hid : e.job = id
      · simp [hid]
      · rcases List.mem_append.mp hmem with hmem | hmem
        · simpa [Function.update_of_ne hid] using hT.known e hmem
        · rw [List.mem_singleton.mp hmem] at hid
          exact absurd rfl hid
    · refine List.pairwise_append.mpr ⟨hT.ordered, List.pairwise_singleton _ _, fun e hmem f hf => ?_⟩
      rw [List.mem_singleton.mp hf]
      exact hT.past e hmem
    · show e.moment ≤ (answerUnless fault c T.stores).2.now
      rw [answerUnless_now]
      rcases List.mem_append.mp hmem with hmem | hmem
      · exact hT.past e hmem
      · exact Nat.le_of_eq (congrArg Entry.moment (List.mem_singleton.mp hmem))

theorem Sound.pass (hT : Sound lifetime T) (span : Nat) : Sound lifetime (T.pass span) :=
  { hT with past := fun e he => Nat.le_trans (hT.past e he) (Nat.le_add_right _ _) }

/-- The text of a record begins with a brace, so it is not empty. -/
theorem write_record_ne_nil (fs : Json.Fields) (v : fs.Value) : (Json.Shape.record fs).write v ≠ [] := by
  rw [Json.Shape.write]
  exact List.cons_ne_nil _ _

theorem encode_ne_nil (n : Notification) : Wire.encode n ≠ [] := write_record_ne_nil _ _

theorem Sound.step (hT : Sound lifetime T) (m : Move) : Sound lifetime (T.step lifetime m) := by
  cases m with
  | begin id topic n => exact hT.begin id rfl (encode_ne_nil n)
  | advance id j fault => exact hT.advance id j fault
  | pass span => exact hT.pass span

theorem Sound.run (hT : Sound lifetime T) (ms : List Move) : Sound lifetime (T.run lifetime ms) := by
  induction ms generalizing T with
  | nil => exact hT
  | cons m ms ih => exact ih (hT.step m)

end Traffic

end Courier
