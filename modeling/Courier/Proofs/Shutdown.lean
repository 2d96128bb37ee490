import Courier.Proofs.Workbench
import Mathlib.Order.WellFounded

/-!
# The end of the worker

What the worker does when it is told to stop, and what it does after an error of the queue. A step of the bench does one
of a few things (`Bench.Goes`), and everything here is read off that. With the flag raised every change of the worker's
phase leads nearer to the end (`Worker.Phase.rank`), no payload is asked for, and one more payload is handed over only
to a worker that was waiting when the flag was raised (`Bench.Goes.told`). As a dispatch gets its replies after some
time (`Plan.wf_follows`), the worker stops unless it is left alone for ever (`Bench.Sound.stops`). After an error of the
queue the worker asks again when its rest has passed, and at no other moment (`Bench.Sound.run_backing`). All of this
together is `Bench.stops_when_told`.
-/

namespace Courier

/-! ## Plans come to an end -/

namespace Plan

variable {α : Type}

/-- A plan is what is left of another one when a call has been answered. -/
def Follows (q p : Plan α) : Prop := ∃ j c, ∃ k : Call.Reply c → Plan α, ∃ r, p.next? j = some ⟨c, k⟩ ∧ q = k r

theorem acc_gather : ∀ {n : Nat} {cs : List Call} {k : Call.Replies cs → Plan α}, cs.length = n →
    (∀ rs, Acc Follows (k rs)) → Acc Follows (gather cs k) := by
  intro n
  induction n with
  | zero =>
    intro cs k hn h
    obtain rfl := List.eq_nil_of_length_eq_zero hn
    refine ⟨_, ?_⟩
    rintro _ ⟨j, c, k', r, hnext, rfl⟩
    exact (h ()).inv ⟨j, c, k', r, hnext, rfl⟩
  | succ n ih =>
    intro cs k hn h
    cases cs with
    | nil => cases hn
    | cons c cs =>
      refine ⟨_, ?_⟩
      rintro _ ⟨j, c, k', r, hnext, rfl⟩
      obtain ⟨⟨c, others, join⟩, hpick, he⟩ := Option.map_eq_some_iff.mp hnext
      cases he
      have hlength := (Call.perm_of_pick hpick).length_eq
      rw [hn, List.length_cons] at hlength
      exact ih (Nat.succ.inj hlength).symm fun rs => h _

/-- Whatever its calls are answered, and in whatever order, a plan comes to its end. -/
theorem wf_follows : WellFounded (Follows (α := α)) := by
  refine ⟨fun p => ?_⟩
  induction p with
  | done a => exact ⟨_, by rintro _ ⟨j, c, k, r, hnext, -⟩; cases hnext⟩
  | ask c k ih =>
    refine ⟨_, ?_⟩
    rintro _ ⟨j, c', k', r, hnext, rfl⟩
    cases j with
    | succ j => cases hnext
    | zero =>
      cases hnext
      exact ih r
  | gather cs k ih => exact acc_gather rfl ih

end Plan

/-! ## How far the end is -/

namespace Worker

/-- How far the worker is from its end once it has been told to stop. -/
def Phase.rank : Phase → Nat
  | .stopped => 0
  | .ready => 1
  | .handling _ | .resting _ => 2
  | .waiting => 3

/-- How many payloads the worker can still be handed once it has been told to stop. -/
def Phase.handovers : Phase → Nat
  | .waiting => 1
  | _ => 0

variable {s s' : State} {m : Move}

theorem asks_of_step_eq_none (h : step s m = none) : asks s m = false := by
  obtain ⟨phase, queue, flag, now⟩ := s
  cases m <;> cases phase <;> cases flag <;> first | rfl | cases h

/-- With the flag raised, a move asks for nothing, leads nearer to the end if it leads anywhere, and hands over no more
than what was being waited for. -/
theorem Makes.told (h : Makes s m s') (hflag : s.flag = .raised) :
    s'.flag = .raised ∧ asks s m = false ∧ (s'.phase = s.phase ∨ s'.phase.rank < s.phase.rank) ∧
      (handedOver s m).toList.length + s'.phase.handovers ≤ s.phase.handovers := by
  cases h with
  | grab _ hnot | await _ hnot | refuse _ hnot => exact absurd hflag hnot
  | abandon hdown =>
    rw [hflag] at hdown
    cases hdown
  | halt hphase _ =>
    rcases hphase with hphase | ⟨since, hphase⟩ | hphase <;>
      simp [asks, handedOver, Phase.rank, Phase.handovers, hphase, hflag]
  | _ => simp_all [asks, handedOver, Phase.rank, Phase.handovers]

/-- The worker is kept from asking by an error of the queue at some moment, until its rest has passed. -/
inductive Backing (t : Nat) (s : State) : Prop
  | resting (hphase : s.phase = .resting t) (hnow : s.now ≤ t + restLength)
  | rested (hphase : s.phase = .ready) (hnow : s.now = t + restLength)
  | stopped (hphase : s.phase = .stopped)

namespace Backing

variable {t : Nat}

theorem payload?_eq_none (hb : Backing t s) : s.phase.payload? = none := by
  cases hb with
  | resting hphase | rested hphase | stopped hphase => simp only [hphase, Phase.payload?]

theorem congr (hb : Backing t s) (hphase : s'.phase = s.phase) (hnow : s'.now = s.now) : Backing t s' := by
  cases hb with
  | resting h hle => exact .resting (hphase.trans h) (hnow ▸ hle)
  | rested h heq => exact .rested (hphase.trans h) (hnow.trans heq)
  | stopped h => exact .stopped (hphase.trans h)

/-- The worker asks again when its rest has just passed. -/
theorem now_eq (hb : Backing t s) (hasks : asks s m = true) : s.now = t + restLength := by
  cases hb with
  | rested hphase hnow => exact hnow
  | resting hphase hnow | stopped hphase => cases m <;> simp [asks, hphase] at hasks

end Backing

/-- A move that asks for nothing leaves the worker kept from asking, and hands nothing over. -/
theorem Makes.backing (h : Makes s m s') {t : Nat} (hb : Backing t s) (hasks : asks s m = false) :
    Backing t s' ∧ handedOver s m = none := by
  cases hb with
  | resting hphase hnow =>
    cases h with
    | resume hresting hle =>
      have hsince := hphase.symm.trans hresting
      cases hsince
      exact ⟨.rested rfl (Nat.le_antisymm hnow hle), rfl⟩
    | pass _ hrest => exact ⟨.resting hphase (hrest t hphase), rfl⟩
    | halt => exact ⟨.stopped rfl, rfl⟩
    | arrive | raise | abandon => exact ⟨.resting hphase hnow, rfl⟩
    | _ => simp_all
  | rested hphase hnow =>
    cases h with
    | stop | halt => exact ⟨.stopped rfl, by simp_all [handedOver]⟩
    | arrive | raise | abandon => exact ⟨.rested hphase hnow, rfl⟩
    | _ => simp_all [asks]
  | stopped hphase =>
    cases h with
    | arrive | raise | abandon | pass => exact ⟨.stopped hphase, rfl⟩
    | _ => simp_all

end Worker

/-! ## What a step of the bench can do -/

namespace Bench

open Memory

variable (topic : String)

/-- Whether a step makes the worker ask for a payload. -/
def asksAt (b : Bench) : Step → Bool
  | .move m => Worker.asks (b.machine topic) m
  | _ => false

/-- The moments at which the worker asks for a payload in a run. -/
def asked (b : Bench) : List Step → List Nat
  | [] => []
  | e :: es => (if asksAt topic b e then [b.now] else []) ++ asked (b.step topic e) es

/-- The things that a step can do. -/
inductive Goes (b : Bench) : Step → Bench → Prop
  /-- At most a queue changes. -/
  | still {e : Step} (queues : Queues) (hasks : asksAt topic b e = false) : Goes b e { b with queues }
  | moves {m : Worker.Move} {s : Worker.State} (h : Worker.Makes (b.machine topic) m s)
    (hp : Worker.handedOver (b.machine topic) m = none) : Goes b (.move m) (b.become topic s)
  | hands {m : Worker.Move} {s : Worker.State} {p : Octets} (h : Worker.Makes (b.machine topic) m s)
    (hp : Worker.handedOver (b.machine topic) m = some p) : Goes b (.move m) ((b.become topic s).begin p)
  | replies {i j : Nat} {r : (c : Call) → c.Reply} {e : Errand} {c : Call} {k : c.Reply → Plan _}
    (hi : b.underway[i]? = some e) (hnext : e.rest.next? j = some ⟨c, k⟩) :
    Goes b (.reply i j r)
      { b with underway := b.underway.set i { e with rest := k (r c) }, log := b.log ++ [.answered ⟨c, r c⟩] }
  | concludes {i : Nat} {e : Errand} {a : Except RelayError Outcome} (hi : b.underway[i]? = some e)
    (ha : e.rest.result? = some a) (hphase : b.phase = .handling e.payload) :
    Goes b (.conclude i)
      { b.go topic .finish with underway := b.underway.eraseIdx i, log := b.log ++ [.ended a] }

variable {topic} {came : List Octets} {b c : Bench} {e : Step}

theorem goes_step (b : Bench) (e : Step) : Goes topic b e (b.step topic e) := by
  cases e with
  | move m =>
    rw [step]
    split
    · unfold go
      cases hs : Worker.step (b.machine topic) m with
      | none => exact .still b.queues (Worker.asks_of_step_eq_none hs)
      | some s =>
        cases hp : Worker.handedOver (b.machine topic) m with
        | none => exact .moves (Worker.makes_of_step hs) hp
        | some p => exact .hands (Worker.makes_of_step hs) hp
    · next hm =>
      refine .still b.queues ?_
      cases m <;> first | rfl | exact absurd rfl hm
  | produce t p => exact .still _ rfl
  | reply i j r =>
    rw [step, reply]
    cases hi : b.underway[i]? with
    | none => exact .still b.queues rfl
    | some e =>
      dsimp only
      cases hn : e.rest.next? j with
      | none => exact .still b.queues rfl
      | some ck => exact .replies hi hn
  | conclude i =>
    rw [step, conclude]
    cases hi : b.underway[i]? with
    | none => exact .still b.queues rfl
    | some e =>
      dsimp only
      cases ha : e.rest.result? with
      | none => exact .still b.queues rfl
      | some a =>
        dsimp only
        split
        · next hphase => exact .concludes hi ha hphase
        · exact .still b.queues rfl

theorem handed_append (xs ys : List Mark) : handed (xs ++ ys) = handed xs ++ handed ys := List.filterMap_append

/-! ## After the flag has been raised -/

/-- With the flag raised, a step makes the worker ask for nothing, leads it nearer to its end if it leads it anywhere,
and hands over no more than what was being waited for. -/
theorem Goes.told (h : Goes topic b e c) (hflag : b.flag = .raised) :
    c.flag = .raised ∧ asksAt topic b e = false ∧ (c.phase = b.phase ∨ c.phase.rank < b.phase.rank) ∧
      ∃ ps, handed c.log = handed b.log ++ ps ∧ ps.length + c.phase.handovers ≤ b.phase.handovers := by
  cases h with
  | still queues hasks =>
    exact ⟨hflag, hasks, .inl rfl, [], (List.append_nil _).symm, by simp⟩
  | moves hmakes hp =>
    obtain ⟨hraised, hasks, hrank, hhand⟩ := hmakes.told hflag
    rw [hp] at hhand
    exact ⟨hraised, hasks, hrank, [], (List.append_nil _).symm, hhand⟩
  | @hands m s p hmakes hp =>
    obtain ⟨hraised, hasks, hrank, hhand⟩ := hmakes.told hflag
    rw [hp] at hhand
    exact ⟨hraised, hasks, hrank, [p], handed_append _ _, hhand⟩
  | replies hi hnext =>
    refine ⟨hflag, rfl, .inl rfl, [], ?_, by simp⟩
    rw [handed_append]
    rfl
  | concludes hi ha hphase =>
    have hfinish : (b.go topic .finish).machine topic = _ := machine_finish hphase
    have hready : (b.go topic .finish).phase = .ready := congrArg Worker.State.phase hfinish
    have hraised : (b.go topic .finish).flag = b.flag := congrArg Worker.State.flag hfinish
    refine ⟨hraised.trans hflag, rfl, .inr ?_, [], ?_, ?_⟩
    · show (b.go topic .finish).phase.rank < b.phase.rank
      rw [hready, hphase]
      exact Nat.lt_succ_self 1
    · rw [handed_append]
      rfl
    · show _ + (b.go topic .finish).phase.handovers ≤ _
      rw [hready]
      exact Nat.zero_le _

variable (topic) in
/-- As long as the flag is raised, a run makes the worker ask for nothing, leads it nearer to its end at most, and hands
over no more than what was being waited for. -/
theorem run_told (hflag : b.flag = .raised) (more : List Step) :
    (b.run topic more).flag = .raised ∧ asked topic b more = [] ∧
      ∃ ps, handed (b.run topic more).log = handed b.log ++ ps ∧
        ps.length + (b.run topic more).phase.handovers ≤ b.phase.handovers := by
  induction more generalizing b with
  | nil => exact ⟨hflag, rfl, [], (List.append_nil _).symm, by simp [run]⟩
  | cons e more ih =>
    obtain ⟨hraised, hasks, -, ps, hps, hle⟩ := (goes_step b e).told hflag
    obtain ⟨hraised', hasked, qs, hqs, hle'⟩ := ih hraised
    refine ⟨hraised', ?_, ps ++ qs, ?_, ?_⟩
    · rw [asked, hasks, hasked]
      rfl
    · rw [← List.append_assoc, ← hps]
      exact hqs
    · rw [List.length_append]
      show _ + ((b.step topic e).run topic more).phase.handovers ≤ _
      omega

variable (topic) in
/-- With the flag raised, a worker at the head of its loop stops when it looks. -/
theorem look_stops (hphase : b.phase = .ready) (hflag : b.flag = .raised) :
    (b.step topic (.move .look)).phase = .stopped ∧ (b.step topic (.move .look)).now = b.now := by
  simp [step, Worker.Move.isOwn, go, Worker.step, Worker.handedOver, machine, become, hphase, hflag]

/-- With the flag raised, a worker that waits or rests stops when that is ended. -/
theorem halt_stops (hphase : b.phase = .waiting ∨ ∃ since, b.phase = .resting since) (hflag : b.flag = .raised) :
    (b.step topic (.move .halt)).phase = .stopped ∧ (b.step topic (.move .halt)).now = b.now := by
  rcases hphase with hphase | ⟨since, hphase⟩ <;>
    simp [step, Worker.Move.isOwn, go, Worker.step, Worker.handedOver, machine, become, hphase, hflag]

/-- With the flag raised, the worker can stop at that very moment, whatever it is at and whatever replies its dispatch
gets. -/
theorem Sound.exists_stop (hb : Sound topic came b) (hflag : b.flag = .raised) (fate : (c : Call) → c.Reply) :
    ∃ more : List Step, (∀ e ∈ more, e = .move .halt ∨ e.GoesOn fate) ∧ (b.run topic more).phase = .stopped ∧
      (b.run topic more).now = b.now := by
  cases hphase : b.phase with
  | stopped => exact ⟨[], nofun, hphase, rfl⟩
  | ready => exact ⟨[.move .look], by simp [Step.GoesOn], look_stops topic hphase hflag⟩
  | waiting => exact ⟨[.move .halt], by simp, halt_stops (.inl hphase) hflag⟩
  | resting since => exact ⟨[.move .halt], by simp, halt_stops (.inr ⟨since, hphase⟩) hflag⟩
  | handling p =>
    obtain ⟨c, ⟨es, hes, rfl⟩, hmachine⟩ := hb.exists_ready hphase fate
    have hready := congrArg Worker.State.phase hmachine
    have hraised := congrArg Worker.State.flag hmachine
    obtain ⟨hstops, hnow⟩ := look_stops topic hready (hraised.trans hflag)
    have hrun : b.run topic (es ++ [.move .look]) = (b.run topic es).step topic (.move .look) := by
      simp [Bench.run]
    refine ⟨es ++ [.move .look], ?_, ?_, ?_⟩
    · intro e he
      rcases List.mem_append.mp he with he | he
      · exact .inr (hes e he)
      · obtain rfl := List.mem_singleton.mp he
        exact .inr (.inl rfl)
    · rw [hrun, hstops]
    · rw [hrun, hnow]
      exact congrArg Worker.State.now hmachine

/-! ## Schedules -/

/-- What is left for the worker to do once it has been told to stop: the way to its end, and the plan of its
dispatch. -/
def left (b : Bench) : Nat × Option (Plan (Except RelayError Outcome)) :=
  (b.phase.rank, b.underway.head?.map Errand.rest)

/-- Less is left to do for one bench than for another. -/
def Nearer (c b : Bench) : Prop := Prod.Lex (· < ·) (Option.lt Plan.Follows) c.left b.left

theorem wf_nearer : WellFounded Nearer :=
  InvImage.wf left (WellFounded.prod_lex wellFounded_lt (Option.wellFounded_lt Plan.wf_follows))

/-- With the flag raised, a step leaves the worker and its dispatch as they are, or less is left to do. -/
theorem Sound.goes_nearer (hb : Sound topic came b) (hflag : b.flag = .raised) (h : Goes topic b e c) :
    (c.phase = b.phase ∧ c.log = b.log ∧ c.left = b.left) ∨ Nearer c b := by
  obtain ⟨-, -, hphase | hrank, -⟩ := h.told hflag
  · obtain ⟨ps, htells, -⟩ := hb.conserved
    cases h with
    | still queues hasks => exact .inl ⟨rfl, rfl, rfl⟩
    | moves hmakes hp => exact .inl ⟨hphase, rfl, congrArg (fun phase => (Worker.Phase.rank phase, _)) hphase⟩
    | @hands m s p hmakes hp =>
      -- the worker was not handling a payload before
      obtain ⟨hnone, -, hhandling⟩ := hmakes.takes hp
      have hsame : s.phase = (b.machine topic).phase := hphase
      rw [← hsame, hhandling] at hnone
      cases hnone
    | @replies i j r e c k hi hnext =>
      obtain ⟨rfl, -, hunder, -⟩ := htells.of_underway hi
      right
      have hfollows : Option.lt Plan.Follows (some (k (r c))) (some e.rest) := ⟨j, c, k, r c, hnext, rfl⟩
      simpa only [Nearer, left, hunder, List.set_cons_zero, List.head?_cons, Option.map_some] using
        Prod.Lex.right b.phase.rank hfollows
    | concludes hi ha hhandling =>
      have hready : (b.go topic .finish).phase = .ready := congrArg Worker.State.phase (machine_finish hhandling)
      rw [hhandling] at hphase
      cases hready.symm.trans hphase
  · exact .inr (Prod.Lex.left _ _ hrank)

variable (topic) in
/-- The bench after the first steps of a schedule. -/
def after (b : Bench) (σ : Nat → Step) (n : Nat) : Bench := b.run topic ((List.range n).map σ)

theorem after_succ (b : Bench) (σ : Nat → Step) (n : Nat) :
    b.after topic σ (n + 1) = (b.after topic σ n).step topic (σ n) := by
  simp [after, run, List.range_succ]

variable (topic) in
/-- A schedule that does not leave the worker alone for ever: until it has stopped, there is always a later step that
moves it or goes on with its dispatch. -/
def Attended (b : Bench) (σ : Nat → Step) : Prop :=
  ∀ n, (b.after topic σ n).phase = .stopped ∨ ∃ m ≥ n,
    (b.after topic σ (m + 1)).phase ≠ (b.after topic σ m).phase ∨
    (b.after topic σ (m + 1)).log ≠ (b.after topic σ m).log

theorem Sound.after_nearer (hb : Sound topic came b) (hflag : b.flag = .raised) (σ : Nat → Step) (m : Nat) :
    ((b.after topic σ (m + 1)).phase = (b.after topic σ m).phase ∧
      (b.after topic σ (m + 1)).log = (b.after topic σ m).log ∧
      (b.after topic σ (m + 1)).left = (b.after topic σ m).left) ∨
    Nearer (b.after topic σ (m + 1)) (b.after topic σ m) := by
  rw [after_succ]
  exact (hb.run _).goes_nearer (run_told topic hflag _).1 (goes_step _ _)

/-- With the flag raised, there is a moment from which on nothing happens to the worker and its dispatch any more. -/
theorem Sound.exists_quiet (hb : Sound topic came b) (hflag : b.flag = .raised) (σ : Nat → Step) :
    ∃ n, ∀ m ≥ n, (b.after topic σ (m + 1)).phase = (b.after topic σ m).phase ∧
      (b.after topic σ (m + 1)).log = (b.after topic σ m).log := by
  -- no later moment has less left to do than this one
  obtain ⟨-, ⟨n, rfl⟩, hmin⟩ := wf_nearer.has_min (Set.range (b.after topic σ)) (Set.range_nonempty _)
  have hleast : ∀ m, (b.after topic σ m).left = (b.after topic σ n).left →
      ¬ Nearer (b.after topic σ (m + 1)) (b.after topic σ m) := by
    intro m hleft hnearer
    refine hmin _ ⟨m + 1, rfl⟩ ?_
    rwa [Nearer, hleft] at hnearer
  have hleft : ∀ m ≥ n, (b.after topic σ m).left = (b.after topic σ n).left := by
    intro m hm
    induction m, hm using Nat.le_induction with
    | base => rfl
    | succ m hm ih =>
      obtain ⟨-, -, hsame⟩ := (hb.after_nearer hflag σ m).resolve_right (hleast m ih)
      exact hsame.trans ih
  refine ⟨n, fun m hm => ?_⟩
  obtain ⟨hphase, hlog, -⟩ := (hb.after_nearer hflag σ m).resolve_right (hleast m (hleft m hm))
  exact ⟨hphase, hlog⟩

/-- With the flag raised, the worker stops under every schedule that does not leave it alone for ever. -/
theorem Sound.stops (hb : Sound topic came b) (hflag : b.flag = .raised) {σ : Nat → Step}
    (hσ : Attended topic b σ) : ∃ n, ∀ m ≥ n, (b.after topic σ m).phase = .stopped := by
  obtain ⟨n, hquiet⟩ := hb.exists_quiet hflag σ
  have hstopped : (b.after topic σ n).phase = .stopped := by
    rcases hσ n with h | ⟨m, hm, hmoves⟩
    · exact h
    · obtain ⟨hphase, hlog⟩ := hquiet m hm
      exact absurd hmoves (not_or.mpr ⟨not_not.mpr hphase, not_not.mpr hlog⟩)
  refine ⟨n, fun m hm => ?_⟩
  induction m, hm using Nat.le_induction with
  | base => exact hstopped
  | succ m hm ih => exact (hquiet m hm).1.trans ih

/-! ## After an error of the queue -/

/-- A step that does not make the worker ask leaves it kept from asking, and leaves the log alone. -/
theorem Sound.goes_backing (hb : Sound topic came b) {t : Nat} (hback : Worker.Backing t (b.machine topic))
    (h : Goes topic b e c) (hasks : asksAt topic b e = false) :
    Worker.Backing t (c.machine topic) ∧ c.log = b.log := by
  obtain ⟨ps, htells, -⟩ := hb.conserved
  cases h with
  | still queues => exact ⟨hback.congr rfl rfl, rfl⟩
  | moves hmakes hp =>
    rw [machine_become]
    exact ⟨(hmakes.backing hback hasks).1, rfl⟩
  | hands hmakes hp =>
    rw [(hmakes.backing hback hasks).2] at hp
    cases hp
  | replies hi | concludes hi =>
    -- nothing is under way
    obtain ⟨-, hpayload, -⟩ := htells.of_underway hi
    rw [hback.payload?_eq_none] at hpayload
    cases hpayload

/-- The worker is kept from asking until it asks again, nothing is dispatched until then, and then its rest has just
passed. -/
theorem Sound.run_backing (hb : Sound topic came b) {t : Nat} (hback : Worker.Backing t (b.machine topic))
    (more : List Step) :
    (asked topic b more = [] →
      Worker.Backing t ((b.run topic more).machine topic) ∧ (b.run topic more).log = b.log) ∧
    ∀ u ∈ (asked topic b more).head?, u = t + Worker.restLength := by
  induction more generalizing b came with
  | nil => exact ⟨fun _ => ⟨hback, rfl⟩, nofun⟩
  | cons e more ih =>
    rw [asked]
    cases hasks : asksAt topic b e with
    | true =>
      refine ⟨nofun, ?_⟩
      rintro _ ⟨⟩
      cases e with
      | move m => exact hback.now_eq hasks
      | _ => cases hasks
    | false =>
      obtain ⟨hback', hlog⟩ := hb.goes_backing hback (goes_step b e) hasks
      obtain ⟨hstill, hagain⟩ := ih (hb.step e) hback'
      exact ⟨fun hnone => (hstill hnone).imp_right (·.trans hlog), hagain⟩

/-- An error of the queue keeps the worker from asking from that moment on. -/
theorem backing_refused (h : Worker.step (b.machine topic) .refused ≠ none) :
    Worker.Backing b.now ((b.step topic (.move .refused)).machine topic) ∧
      (b.step topic (.move .refused)).log = b.log := by
  obtain ⟨s, hs⟩ := Option.ne_none_iff_exists'.mp h
  have hstep : b.step topic (.move .refused) = b.become topic s := by
    simp only [step, Worker.Move.isOwn, if_true, go, hs, Worker.handedOver]
  rw [hstep, machine_become]
  refine ⟨?_, rfl⟩
  cases Worker.makes_of_step hs with
  | refuse | fail => exact .resting rfl (Nat.le_add_right _ _)

/-! ## The whole run -/

variable (topic) in
/-- What holds of a bench when the flag has been raised. -/
structure WindsUp (b : Bench) : Prop where
  /-- The worker asks for nothing more. -/
  quiet : ∀ more, asked topic b more = []
  /-- At most one payload more is handed over, and only to a worker that was waiting for one. -/
  handsOver : ∀ more, ∃ ps, handed (b.run topic more).log = handed b.log ++ ps ∧ ps.length ≤ b.phase.handovers
  /-- The payload that is being handled is the last that was handed over. -/
  handles : ∀ p, b.phase = .handling p → ∃ ps, handed b.log = ps ++ [p]
  /-- When the worker has stopped, all that was handed over has been dispatched to its end. -/
  whole : ∀ more, (b.run topic more).phase = .stopped →
    InTurn (handed (b.run topic more).log) (b.run topic more).log
  /-- In the middle of a rest it only stops. -/
  cutsShort : ∀ since, b.phase = .resting since → ∀ more, (b.run topic more).now < since + Worker.restLength →
    (b.run topic more).phase = .resting since ∨ (b.run topic more).phase = .stopped
  /-- The worker can stop at that very moment, whatever replies its dispatch gets. -/
  atOnce : ∀ fate : (c : Call) → c.Reply, ∃ more : List Step, (∀ e ∈ more, e = .move .halt ∨ e.GoesOn fate) ∧
    (b.run topic more).phase = .stopped ∧ (b.run topic more).now = b.now
  /-- It does stop, unless it is left alone for ever. -/
  stops : ∀ σ, Attended topic b σ → ∃ n, ∀ m ≥ n, (b.after topic σ m).phase = .stopped

theorem Sound.inTurn_of_stopped (hb : Sound topic came b) (hstop : b.phase = .stopped) :
    InTurn (handed b.log) b.log := by
  obtain ⟨ps, htells, -⟩ := hb.conserved
  rw [show (b.machine topic).phase = .stopped from hstop] at htells
  cases htells with
  | idle hunder hlog =>
    rw [hlog.handed_eq]
    exact hlog

theorem Sound.windsUp (hb : Sound topic came b) (hflag : b.flag = .raised) : WindsUp topic b where
  quiet more := (run_told topic hflag more).2.1
  handsOver more := by
    obtain ⟨-, -, ps, hps, hle⟩ := run_told topic hflag more
    exact ⟨ps, hps, by omega⟩
  handles p hphase := by
    obtain ⟨ps, htells, -⟩ := hb.conserved
    rw [show (b.machine topic).phase = .handling p from hphase] at htells
    exact ⟨ps, htells.handed_eq⟩
  whole more := (hb.run more).inTurn_of_stopped
  cutsShort since hphase more hnow := by
    have hback : Worker.Backing since (b.machine topic) := .resting hphase (hb.steady.rested since hphase)
    obtain ⟨hrests, -⟩ := (hb.run_backing hback more).1 (run_told topic hflag more).2.1
    cases hrests with
    | resting hresting => exact .inl hresting
    | rested _ hpassed => exact absurd hpassed hnow.ne
    | stopped hstop => exact .inr hstop
  atOnce := hb.exists_stop hflag
  stops _ := hb.stops hflag

/-- **The worker stops when it is told to.** Let the worker begin with any queues and any flag, and let anything happen.
If the flag is raised from the beginning, it asks for nothing. Whenever the flag is raised, it asks for nothing more, at
most one payload more is handed over, which it was already waiting for, what was handed over is dispatched to its end,
and it stops, also while it waits or rests. Unless somebody raises the flag or leaves, it does not stop. After an error
of the queue nothing is dispatched until the worker asks again, which it does when its rest has passed and at no other
moment. -/
theorem stops_when_told (topic : String) (queues : Queues) (flag : Worker.Flag) (now : Nat) (es : List Step) :
    let b := run topic (opened queues flag now) es
    (flag = .raised → asked topic (opened queues flag now) es = []) ∧
    (b.flag = .raised → WindsUp topic b) ∧
    (b.phase = .stopped → flag ≠ .down ∨ .move .raise ∈ es ∨ .move .abandon ∈ es) ∧
    (Worker.step (b.machine topic) .refused ≠ none → ∀ more,
      let c := b.step topic (.move .refused)
      (asked topic c more = [] → (c.run topic more).log = b.log) ∧
      ∀ u ∈ (asked topic c more).head?, u = b.now + Worker.restLength) := by
  intro b
  have hb : Sound topic (queues.waiting topic ++ es.filterMap (Step.put? topic)) b :=
    (opened_sound queues flag now).run es
  refine ⟨fun hflag => (run_told topic hflag es).2.1, hb.windsUp, fun hstop => ?_, fun hrefused more => ?_⟩
  · rcases run_flag topic (opened queues flag now) es with h | h
    · exact .inl fun hdown => hb.steady.told hstop (h.trans hdown)
    · exact .inr h
  · obtain ⟨hback, hlog⟩ := backing_refused hrefused
    obtain ⟨hstill, hagain⟩ := (hb.step _).run_backing hback more
    exact ⟨fun hnone => (hstill hnone).2.trans hlog, hagain⟩

/-- The worker is waiting when a payload comes, and before it can take it the flag is raised. -/
def rushed : List Step := [.move .look, .produce "t" [], .move .raise]

/-- The worker then takes that payload, and stops. -/
def rushedOn : List Step := [.move .wake, .conclude 0, .move .look]

/-- A payload comes while the worker rests after an error of the queue, and is taken a second later. -/
def patient : List Step := [.produce "t" [], .move .look, .move (.pass 1000), .move .resume, .move .look]

/-- The payload that comes before the flag is raised is still dispatched to its end, and then the worker stops. A worker
that begins with the flag raised asks for nothing, and one that meets an error of the queue at some moment asks again a
second later. -/
theorem stops_when_told_rushed :
    WindsUp "t" (run "t" (opened [] .down 0) rushed) ∧
    InTurn [[]] (run "t" (opened [] .down 0) (rushed ++ rushedOn)).log ∧
    (.move .raise ∈ rushed ++ rushedOn ∨ .move .abandon ∈ rushed ++ rushedOn) ∧
    asked "t" (opened [] .raised 0) [.move .refused, .move .look] = [] ∧
    (∀ u ∈ (asked "t" (run "t" (opened [] .down 7) [.move .refused]) patient).head?, u = 1007) ∧
    asked "t" (run "t" (opened [] .down 7) [.move .refused]) patient = [1007] ∧
    (run "t" (opened [] .down 7) (.move .refused :: patient.take 4)).log = [] := by
  obtain ⟨-, hwinds, -, -⟩ := stops_when_told "t" [] .down 0 rushed
  obtain ⟨-, -, hstopped, -⟩ := stops_when_told "t" [] .down 0 (rushed ++ rushedOn)
  obtain ⟨hquiet, -, -, -⟩ := stops_when_told "t" [] .raised 0 [.move .refused, .move .look]
  obtain ⟨-, -, -, hrefused⟩ := stops_when_told "t" [] .down 7 []
  have hup := hwinds (by decide +kernel)
  have hturn := hup.whole rushedOn (by decide +kernel)
  rw [show handed _ = [[]] by decide +kernel] at hturn
  exact ⟨hup, hturn, (hstopped (by decide +kernel)).resolve_left (absurd rfl), hquiet rfl,
    (hrefused (by decide +kernel) patient).2, by decide +kernel,
    (hrefused (by decide +kernel) (patient.take 4)).1 (by decide +kernel)⟩

end Bench

end Courier
