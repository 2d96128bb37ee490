import Courier.Dispatch
import Courier.Memory.Queues
import Courier.Proofs.Unfolding
import Courier.Worker

/-!
# The workbench

The worker takes payloads from the queue of a topic in memory, and each payload that it takes begins a dispatch. A step
of the bench (`Bench.step`) is a move of the worker's machine, a payload that somebody appends to some topic, a reply to
a dispatch that is under way, or the end of one. A step that cannot be made changes nothing, so a run is any list of
steps. The log holds what becomes of the payloads that were taken.

What a move of the machine can do is said once (`Worker.Makes`). What every run keeps is `Bench.Sound`: the log tells
whole dispatches one after another (`InTurn`), perhaps with one more that has not ended, and their payloads are those
that came, in their order, up to those that still wait. As long as nobody tells the worker to stop it can go on,
whatever has become of its payloads (`Bench.Sound.exists_rest`). `Bench.nothing_is_lost` puts this together.
-/

namespace Courier

open Memory

/-! ## Moves of the machine -/

namespace Worker

/-- The ways to make a move. -/
inductive Makes (s : State) : Move → State → Prop
  | stop (hphase : s.phase = .ready) (hflag : s.flag = .raised) : Makes s .look { s with phase := .stopped }
  | grab {p : Octets} {ps : List Octets} (hphase : s.phase = .ready) (hflag : s.flag ≠ .raised)
    (hqueue : s.queue = p :: ps) : Makes s .look { s with phase := .handling p, queue := ps }
  | await (hphase : s.phase = .ready) (hflag : s.flag ≠ .raised) (hqueue : s.queue = []) :
    Makes s .look { s with phase := .waiting }
  | refuse (hphase : s.phase = .ready) (hflag : s.flag ≠ .raised) : Makes s .refused { s with phase := .resting s.now }
  | fail (hphase : s.phase = .waiting) : Makes s .refused { s with phase := .resting s.now }
  | fetch {p : Octets} {ps : List Octets} (hphase : s.phase = .waiting) (hqueue : s.queue = p :: ps) :
    Makes s .wake { s with phase := .handling p, queue := ps }
  | giveUp (hphase : s.phase = .waiting) (hqueue : s.queue = []) : Makes s .wake { s with phase := .ready }
  | finish {p : Octets} (hphase : s.phase = .handling p) : Makes s .finish { s with phase := .ready }
  | resume {since : Nat} (hphase : s.phase = .resting since) (hnow : since + restLength ≤ s.now) :
    Makes s .resume { s with phase := .ready }
  | halt (hphase : s.phase = .waiting ∨ (∃ since, s.phase = .resting since) ∨ s.phase = .ready)
    (hflag : s.flag ≠ .down) : Makes s .halt { s with phase := .stopped }
  | arrive (p : Octets) : Makes s (.arrive p) { s with queue := s.queue ++ [p] }
  | raise : Makes s .raise { s with flag := .raised }
  | abandon (hflag : s.flag = .down) : Makes s .abandon { s with flag := .abandoned }
  | pass {n : Nat} (hphase : s.phase ≠ .ready)
    (hrest : ∀ since, s.phase = .resting since → s.now + n ≤ since + restLength) :
    Makes s (.pass n) { s with now := s.now + n }

variable {s s' : State} {m : Move}

theorem makes_of_step (h : step s m = some s') : Makes s m s' := by
  obtain ⟨phase, queue, flag, now⟩ := s
  cases m with
  | look =>
    cases phase <;> cases flag <;> cases queue <;> cases h <;>
      first | exact .stop rfl rfl | exact .grab rfl nofun rfl | exact .await rfl nofun rfl
  | refused => cases phase <;> cases flag <;> cases h <;> first | exact .refuse rfl nofun | exact .fail rfl
  | wake => cases phase <;> cases queue <;> cases h <;> first | exact .fetch rfl rfl | exact .giveUp rfl rfl
  | finish =>
    cases phase <;> cases h
    exact .finish rfl
  | resume =>
    cases phase with
    | resting since =>
      simp only [step] at h
      split at h
      · next hle =>
        cases h
        exact .resume rfl hle
      · cases h
    | _ => cases h
  | halt =>
    cases phase <;> cases flag <;> cases h <;>
      first
      | exact .halt (.inl rfl) nofun
      | exact .halt (.inr (.inl ⟨_, rfl⟩)) nofun
      | exact .halt (.inr (.inr rfl)) nofun
  | arrive p =>
    cases h
    exact .arrive p
  | raise =>
    cases h
    exact .raise
  | abandon =>
    cases flag <;> cases h
    exact .abandon rfl
  | pass n =>
    cases phase with
    | ready => cases h
    | resting since =>
      simp only [step] at h
      split at h
      · next hle =>
        cases h
        refine .pass nofun fun t ht => ?_
        cases ht
        exact hle
      · cases h
    | _ =>
      cases h
      exact .pass nofun nofun

/-- The payload that is being handled. -/
def Phase.payload? : Phase → Option Octets
  | .handling p => some p
  | _ => none

/-- A move that is made by neither a producer nor a dispatch. -/
def Move.isOwn : Move → Bool
  | .arrive _ | .finish => false
  | _ => true

/-- A move that hands a payload over takes the oldest one, and begins when none is being handled. -/
theorem Makes.takes (h : Makes s m s') {p : Octets} (hp : handedOver s m = some p) :
    s.phase.payload? = none ∧ s.queue = p :: s'.queue ∧ s'.phase = .handling p := by
  cases h <;> simp_all [handedOver, Phase.payload?]

/-- Any other move of the worker's own leaves the queue alone, and the payload that is being handled. -/
theorem Makes.keeps (h : Makes s m s') (hm : m.isOwn = true) (hp : handedOver s m = none) :
    s'.queue = s.queue ∧ s'.phase.payload? = s.phase.payload? := by
  cases h with
  | arrive p => cases hm
  | finish hphase => cases hm
  | halt hphase hflag => rcases hphase with h | ⟨t, h⟩ | h <;> simp [Phase.payload?, h]
  | _ => simp_all [handedOver, Phase.payload?]

/-- What holds of the worker apart from its payloads: it has not stopped without being told, and it rests no longer than
it should. -/
structure State.Steady (s : State) : Prop where
  told : s.phase = .stopped → s.flag ≠ .down
  rested : ∀ since, s.phase = .resting since → s.now ≤ since + restLength

theorem Makes.steady (h : Makes s m s') (hs : s.Steady) : s'.Steady := by
  obtain ⟨htold, hrested⟩ := hs
  cases h with
  | pass hphase hrest => exact ⟨htold, hrest⟩
  | _ => constructor <;> simp_all

/-- Only somebody who raises the flag or leaves changes how it stands. -/
theorem Makes.flag_eq (h : Makes s m s') (hraise : m ≠ .raise) (habandon : m ≠ .abandon) : s'.flag = s.flag := by
  cases h <;> first | rfl | contradiction

end Worker

/-! ## The bench -/

/-- A dispatch that has begun, and what is left of it. -/
structure Errand where
  payload : Octets
  rest : Plan (Except RelayError Outcome)

/-- What becomes of a payload that was taken. -/
inductive Mark
  /-- A dispatch of it began. -/
  | begun (payload : Octets)
  /-- A call of a dispatch was answered. -/
  | answered (x : Exchange)
  /-- A dispatch ended. -/
  | ended (result : Except RelayError Outcome)

/-- The queues, the worker, the dispatches that are under way, and what has become of the payloads. -/
structure Bench where
  queues : Queues
  phase : Worker.Phase
  flag : Worker.Flag
  now : Nat
  underway : List Errand
  log : List Mark

namespace Bench

/-- What can happen next. -/
inductive Step
  /-- The worker moves, somebody moves the flag, or time passes. -/
  | move (m : Worker.Move)
  /-- Somebody appends a payload to the queue of a topic. -/
  | produce (topic : String) (payload : Octets)
  /-- One of the calls that a dispatch waits for is answered. -/
  | reply (i j : Nat) (r : (c : Call) → c.Reply)
  /-- A dispatch has ended, and the worker goes on. -/
  | conclude (i : Nat)

/-- The payload that a step puts on a topic. -/
def Step.put? (topic : String) : Step → Option Octets
  | .produce t p => if t = topic then some p else none
  | _ => none

variable (topic : String)

/-- The worker at the head of its loop, with nothing under way. -/
def opened (queues : Queues) (flag : Worker.Flag) (now : Nat) : Bench := ⟨queues, .ready, flag, now, [], []⟩

/-- The bench as the machine of the worker sees it. -/
def machine (b : Bench) : Worker.State :=
  { phase := b.phase, queue := b.queues.waiting topic, flag := b.flag, now := b.now }

/-- The bench as the machine has left it. -/
def become (b : Bench) (s : Worker.State) : Bench :=
  { b with queues := Named.put b.queues topic s.queue, phase := s.phase, flag := s.flag, now := s.now }

/-- A dispatch of a payload begins. -/
def begin (b : Bench) (p : Octets) : Bench :=
  { b with underway := b.underway ++ [⟨p, Dispatch.dispatch p⟩], log := b.log ++ [.begun p] }

/-- The worker moves. A payload that is handed over begins a dispatch. -/
def go (b : Bench) (m : Worker.Move) : Bench :=
  match Worker.step (b.machine topic) m, Worker.handedOver (b.machine topic) m with
  | none, _ => b
  | some s, none => b.become topic s
  | some s, some p => (b.become topic s).begin p

/-- A call of a dispatch is answered. -/
def reply (b : Bench) (i j : Nat) (r : (c : Call) → c.Reply) : Bench :=
  match b.underway[i]? with
  | none => b
  | some e =>
    match e.rest.next? j with
    | none => b
    | some ⟨c, k⟩ =>
      { b with underway := b.underway.set i { e with rest := k (r c) }, log := b.log ++ [.answered ⟨c, r c⟩] }

/-- The worker has waited for a dispatch of the payload that it handles, and that has ended. -/
def conclude (b : Bench) (i : Nat) : Bench :=
  match b.underway[i]? with
  | none => b
  | some e =>
    match e.rest.result? with
    | none => b
    | some a =>
      if b.phase = .handling e.payload then
        { b.go topic .finish with underway := b.underway.eraseIdx i, log := b.log ++ [.ended a] }
      else b

/-- The bench after a step. Payloads come from producers only, and one has been handled when its dispatch has ended. -/
def step (b : Bench) : Step → Bench
  | .move m => if m.isOwn then b.go topic m else b
  | .produce t p => { b with queues := b.queues.push t p }
  | .reply i j r => b.reply i j r
  | .conclude i => b.conclude topic i

def run (b : Bench) (es : List Step) : Bench := es.foldl (step topic) b

/-! ## Dispatches one after another -/

/-- A log of whole dispatches of some payloads, each of which began when the one before had ended. -/
inductive InTurn : List Octets → List Mark → Prop
  | nil : InTurn [] []
  | snoc {ps : List Octets} {log : List Mark} (before : InTurn ps log) {p : Octets} {es : List Exchange}
    {a : Except RelayError Outcome} (h : (Dispatch.dispatch p).Unfolds es a) :
    InTurn (ps ++ [p]) (log ++ (.begun p :: es.map .answered ++ [.ended a]))

/-- The payloads of which dispatches began, in the order in which they did. -/
def handed (log : List Mark) : List Octets :=
  log.filterMap fun
    | .begun p => some p
    | _ => none

theorem handed_begun (p : Octets) (es : List Exchange) : handed (.begun p :: es.map .answered) = [p] := by
  induction es with
  | nil => rfl
  | cons e es ih => exact ih

theorem InTurn.handed_eq {ps : List Octets} {log : List Mark} (h : InTurn ps log) : handed log = ps := by
  induction h with
  | nil => rfl
  | @snoc ps log before p es a h ih =>
    have hwhole : handed (.begun p :: es.map .answered ++ [.ended a]) = [p] := by
      rw [handed, List.filterMap_append, ← handed, handed_begun]
      rfl
    rw [handed, List.filterMap_append, ← handed, ← handed, ih, hwhole]

/-- What is under way and in the log when the worker has handled some payloads and handles one more, if it does. -/
inductive Tells (b : Bench) (ps : List Octets) : Option Octets → Prop
  | idle (hunder : b.underway = []) (hlog : InTurn ps b.log) : Tells b ps none
  | busy {p : Octets} {log : List Mark} (es : List Exchange) {rest : Plan (Except RelayError Outcome)}
    (hunder : b.underway = [⟨p, rest⟩]) (hlog : b.log = log ++ .begun p :: es.map .answered) (hbefore : InTurn ps log)
    (hrest : ∀ xs a, rest.Unfolds xs a → (Dispatch.dispatch p).Unfolds (es ++ xs) a) : Tells b ps (some p)

/-- What every run keeps, when some payloads have come. -/
structure Sound (came : List Octets) (b : Bench) : Prop where
  /-- The payloads that came have been handled in turn, up to the one that is being handled and those that wait. -/
  conserved : ∃ ps, Tells b ps (b.machine topic).phase.payload? ∧
    ps ++ (b.machine topic).phase.payload?.toList ++ (b.machine topic).queue = came
  steady : (b.machine topic).Steady

variable {topic} {came : List Octets} {b : Bench}

theorem machine_become (b : Bench) (s : Worker.State) : (b.become topic s).machine topic = s := by
  have hwaiting : Queues.waiting (Named.put b.queues topic s.queue) topic = s.queue := by
    rw [Queues.waiting, Named.lookup_put_self]
    rfl
  simp only [machine, become, hwaiting]

/-- A move of the worker changes nothing, leaves the payloads alone, or hands one over. -/
theorem go_cases (b : Bench) (m : Worker.Move) :
    b.go topic m = b ∨ ∃ s, Worker.Makes (b.machine topic) m s ∧
      ((Worker.handedOver (b.machine topic) m = none ∧ b.go topic m = b.become topic s) ∨
        ∃ p, Worker.handedOver (b.machine topic) m = some p ∧ b.go topic m = (b.become topic s).begin p) := by
  unfold go
  cases hs : Worker.step (b.machine topic) m with
  | none => exact .inl rfl
  | some s =>
    refine .inr ⟨s, Worker.makes_of_step hs, ?_⟩
    cases Worker.handedOver (b.machine topic) m with
    | none => exact .inl ⟨rfl, rfl⟩
    | some p => exact .inr ⟨p, rfl, rfl⟩

/-- A payload that has been handled brings the worker back to the head of its loop. -/
theorem machine_finish {p : Octets} (h : b.phase = .handling p) :
    (b.go topic .finish).machine topic = ⟨.ready, b.queues.waiting topic, b.flag, b.now⟩ := by
  have hgo : b.go topic .finish = b.become topic ⟨.ready, b.queues.waiting topic, b.flag, b.now⟩ := by
    simp only [go, Worker.step, Worker.handedOver, machine, h]
  rw [hgo, machine_become]

theorem Tells.congr {b' : Bench} {ps : List Octets} {p : Option Octets} (h : Tells b ps p)
    (hunder : b'.underway = b.underway) (hlog : b'.log = b.log) : Tells b' ps p := by
  cases h with
  | idle hu hl => exact .idle (hunder.trans hu) (hlog ▸ hl)
  | busy es hu hl hbefore hrest => exact .busy es (hunder.trans hu) (hlog.trans hl) hbefore hrest

/-- What is under way is the dispatch of the payload that is being handled. -/
theorem Tells.of_underway {ps : List Octets} {o : Option Octets} (h : Tells b ps o) {i : Nat} {e : Errand}
    (hi : b.underway[i]? = some e) : i = 0 ∧ o = some e.payload ∧ b.underway = [e] ∧
      ∃ log es, b.log = log ++ .begun e.payload :: es.map .answered ∧ InTurn ps log ∧
        ∀ xs a, e.rest.Unfolds xs a → (Dispatch.dispatch e.payload).Unfolds (es ++ xs) a := by
  cases h with
  | idle hunder hlog => simp [hunder] at hi
  | busy es hunder hlog hbefore hrest =>
    rw [hunder, List.getElem?_singleton] at hi
    split at hi
    · next hzero =>
      cases hi
      exact ⟨hzero, rfl, hunder, _, _, hlog, hbefore, hrest⟩
    · cases hi

theorem Tells.handed_eq {ps : List Octets} {o : Option Octets} (h : Tells b ps o) : handed b.log = ps ++ o.toList := by
  cases h with
  | idle hunder hlog => rw [hlog.handed_eq, Option.toList_none, List.append_nil]
  | busy es hunder hlog hbefore =>
    rw [hlog, handed, List.filterMap_append, ← handed, ← handed, hbefore.handed_eq, handed_begun]
    rfl

theorem Sound.handed_eq (hb : Sound topic came b) : handed b.log ++ b.queues.waiting topic = came := by
  obtain ⟨ps, htells, hcame⟩ := hb.conserved
  rw [htells.handed_eq]
  exact hcame

theorem opened_sound (queues : Queues) (flag : Worker.Flag) (now : Nat) :
    Sound topic (queues.waiting topic) (opened queues flag now) where
  conserved := ⟨[], .idle rfl .nil, rfl⟩
  steady := ⟨nofun, nofun⟩

/-- A move of the worker moves at most the oldest payload, from the queue to a dispatch. -/
theorem Sound.go (hb : Sound topic came b) {m : Worker.Move} (hm : m.isOwn = true) :
    Sound topic came (b.go topic m) := by
  obtain ⟨⟨ps, htells, hcame⟩, hsteady⟩ := hb
  rcases go_cases b m with he | ⟨s, hmakes, ⟨hp, he⟩ | ⟨p, hp, he⟩⟩
  · rw [he]
    exact ⟨⟨ps, htells, hcame⟩, hsteady⟩
  · have hmachine : (b.go topic m).machine topic = s := by
      rw [he, machine_become]
    obtain ⟨hqueue, hphase⟩ := hmakes.keeps hm hp
    rw [← hphase] at htells hcame
    rw [← hqueue] at hcame
    refine ⟨⟨ps, ?_, hmachine.symm ▸ hcame⟩, hmachine.symm ▸ hmakes.steady hsteady⟩
    rw [hmachine, he]
    exact htells.congr rfl rfl
  · have hmachine : (b.go topic m).machine topic = s := by
      rw [he]
      exact machine_become b s
    obtain ⟨hnone, hqueue, hphase⟩ := hmakes.takes hp
    rw [hnone] at htells hcame
    cases htells with
    | idle hunder hbefore =>
      have hnew : ((b.become topic s).begin p).underway = [⟨p, Dispatch.dispatch p⟩] := by
        rw [begin, become, hunder, List.nil_append]
      refine ⟨⟨ps, ?_, ?_⟩, hmachine.symm ▸ hmakes.steady hsteady⟩
      · rw [hmachine, hphase, he]
        exact .busy [] hnew rfl hbefore fun xs a h => h
      · rw [hmachine, hphase, ← hcame, hqueue]
        simp [Worker.Phase.payload?]

/-- A reply carries the dispatch on that is under way. -/
theorem Sound.reply (hb : Sound topic came b) (i j : Nat) (r : (c : Call) → c.Reply) :
    Sound topic came (b.reply i j r) := by
  unfold Bench.reply
  cases hi : b.underway[i]? with
  | none => exact hb
  | some e =>
    cases hn : e.rest.next? j with
    | none => simpa only [hn] using hb
    | some ck =>
      obtain ⟨c, k⟩ := ck
      simp only [hn]
      obtain ⟨⟨ps, htells, hcame⟩, hsteady⟩ := hb
      obtain ⟨rfl, hphase, hunder, log, es, hlog, hbefore, hrest⟩ := htells.of_underway hi
      refine ⟨⟨ps, ?_, hcame⟩, hsteady⟩
      show Tells _ ps (b.machine topic).phase.payload?
      rw [hphase]
      have hnew : b.underway.set 0 { e with rest := k (r c) } = [⟨e.payload, k (r c)⟩] := by
        rw [hunder, List.set_cons_zero]
      refine .busy (es ++ [⟨c, r c⟩]) hnew ?_ hbefore fun xs a h => ?_
      · simp only [hlog, List.map_append, List.map_singleton, List.append_assoc, List.cons_append]
      · rw [List.append_assoc]
        exact hrest _ a (.answered hn h)

/-- The end of a dispatch makes it a whole one, and the worker is back at the head of its loop. -/
theorem Sound.conclude (hb : Sound topic came b) (i : Nat) : Sound topic came (b.conclude topic i) := by
  unfold Bench.conclude
  cases hi : b.underway[i]? with
  | none => exact hb
  | some e =>
    cases ha : e.rest.result? with
    | none => simpa only [ha] using hb
    | some a =>
      simp only [ha]
      split
      · next hphase =>
        obtain ⟨⟨ps, htells, hcame⟩, hsteady⟩ := hb
        obtain ⟨rfl, hpayload, hunder, log, es, hlog, hbefore, hrest⟩ := htells.of_underway hi
        have hmachine : (b.go topic .finish).machine topic = _ := machine_finish hphase
        have hwhole : (Dispatch.dispatch e.payload).Unfolds es a := by
          simpa using hrest [] a (.ended ha)
        refine ⟨⟨ps ++ [e.payload], ?_, ?_⟩, ?_⟩
        · show Tells _ _ ((b.go topic .finish).machine topic).phase.payload?
          rw [hmachine]
          refine .idle ?_ ?_
          · simp only [hunder, List.eraseIdx_zero, List.tail_cons]
          · simp only [hlog, List.append_assoc]
            exact hbefore.snoc hwhole
        · show _ ++ ((b.go topic .finish).machine topic).phase.payload?.toList ++
            ((b.go topic .finish).machine topic).queue = came
          rw [hmachine, ← hcame, hpayload]
          exact congrArg (· ++ _) (List.append_nil _)
        · show ((b.go topic .finish).machine topic).Steady
          rw [hmachine]
          exact ⟨nofun, nofun⟩
      · exact hb

theorem Sound.produce (hb : Sound topic came b) (p : Octets) :
    Sound topic (came ++ [p]) { b with queues := b.queues.push topic p } := by
  obtain ⟨⟨ps, htells, hcame⟩, hsteady⟩ := hb
  have hmachine : machine topic { b with queues := b.queues.push topic p } =
      { b.machine topic with queue := (b.machine topic).queue ++ [p] } := by
    simp only [machine, Queues.waiting_push_self]
  refine ⟨⟨ps, ?_, ?_⟩, ?_⟩
  · rw [hmachine]
    exact htells.congr rfl rfl
  · rw [hmachine, ← List.append_assoc, hcame]
  · rw [hmachine]
    exact ⟨hsteady.told, hsteady.rested⟩

theorem Sound.produce_elsewhere (hb : Sound topic came b) {other : String} (h : other ≠ topic) (p : Octets) :
    Sound topic came { b with queues := b.queues.push other p } := by
  obtain ⟨⟨ps, htells, hcame⟩, hsteady⟩ := hb
  have hmachine : machine topic { b with queues := b.queues.push other p } = b.machine topic := by
    simp only [machine, Queues.waiting_push_of_ne h.symm]
  refine ⟨⟨ps, ?_, ?_⟩, ?_⟩
  · rw [hmachine]
    exact htells.congr rfl rfl
  · rw [hmachine, hcame]
  · rw [hmachine]
    exact hsteady

theorem Sound.step (hb : Sound topic came b) (e : Step) :
    Sound topic (came ++ (e.put? topic).toList) (b.step topic e) := by
  have hquiet : ∀ {b' : Bench}, e.put? topic = none → Sound topic came b' →
      Sound topic (came ++ (e.put? topic).toList) b' := by
    intro b' hnone h
    rw [hnone]
    simpa using h
  cases e with
  | move m =>
    refine hquiet rfl ?_
    rw [Bench.step]
    split
    · next hm => exact hb.go hm
    · exact hb
  | produce t p =>
    by_cases ht : t = topic
    · subst ht
      rw [Step.put?, if_pos rfl]
      exact hb.produce p
    · exact hquiet (if_neg ht) (hb.produce_elsewhere ht p)
  | reply i j r => exact hquiet rfl (hb.reply i j r)
  | conclude i => exact hquiet rfl (hb.conclude i)

theorem Sound.run (hb : Sound topic came b) (es : List Step) :
    Sound topic (came ++ es.filterMap (Step.put? topic)) (b.run topic es) := by
  induction es generalizing b came with
  | nil => simpa [Bench.run] using hb
  | cons e es ih =>
    have h := ih (hb.step e)
    rw [List.append_assoc] at h
    cases hp : e.put? topic with
    | none => simpa [Bench.run, hp] using h
    | some p => simpa [Bench.run, hp] using h

/-! ## Going on -/

/-- A step by which the worker goes on: it looks for payloads, its rest passes, or its dispatch gets some replies and
ends. -/
def Step.GoesOn (fate : (c : Call) → c.Reply) : Step → Prop
  | .move m => m = .look ∨ m = .wake ∨ m = .resume ∨ ∃ n, m = .pass n
  | .produce _ _ => False
  | .reply _ _ r => r = fate
  | .conclude _ => True

variable (topic) in
/-- By going on, the worker can get from one bench to another. -/
def Leads (fate : (c : Call) → c.Reply) (b c : Bench) : Prop :=
  ∃ es, (∀ e ∈ es, e.GoesOn fate) ∧ b.run topic es = c

variable {fate : (c : Call) → c.Reply} {c d : Bench}

theorem Leads.refl (b : Bench) : Leads topic fate b b := ⟨[], nofun, rfl⟩

theorem Leads.trans (h : Leads topic fate b c) (h' : Leads topic fate c d) : Leads topic fate b d := by
  obtain ⟨es, hes, rfl⟩ := h
  obtain ⟨es', hes', rfl⟩ := h'
  refine ⟨es ++ es', fun e he => ?_, by simp [Bench.run]⟩
  rcases List.mem_append.mp he with he | he
  · exact hes e he
  · exact hes' e he

theorem leads_step {e : Step} (he : e.GoesOn fate) : Leads topic fate b (b.step topic e) :=
  ⟨[e], by simpa using he, rfl⟩

theorem Sound.leads (hb : Sound topic came b) (h : Leads topic fate b c) : Sound topic came c := by
  obtain ⟨es, hes, rfl⟩ := h
  have hnone : es.filterMap (Step.put? topic) = [] := by
    refine List.filterMap_eq_nil_iff.mpr fun e he => ?_
    have hgoes := hes e he
    cases e with
    | produce t p => exact hgoes.elim
    | _ => rfl
  simpa [hnone] using hb.run es

/-- A move of the worker that can be made and hands nothing over. -/
theorem leads_go {m : Worker.Move} {s : Worker.State} (hgoes : (Step.move m).GoesOn fate) (hown : m.isOwn = true)
    (hs : Worker.step (b.machine topic) m = some s) :
    ∃ c, Leads topic fate b c ∧ c.machine topic = s := by
  refine ⟨b.go topic m, ?_, ?_⟩
  · have h : Leads topic fate b (b.step topic (.move m)) := leads_step hgoes
    rwa [Bench.step, if_pos hown] at h
  · unfold Bench.go
    rw [hs]
    cases Worker.handedOver (b.machine topic) m <;> exact machine_become b s

/-- Whatever replies it gets, a dispatch that is under way comes to its end. -/
theorem leads_ended {e : Errand} (h : b.underway = [e]) (fate : (c : Call) → c.Reply) :
    ∃ c rest a, Leads topic fate b c ∧ c.machine topic = b.machine topic ∧ c.underway = [⟨e.payload, rest⟩] ∧
      rest.result? = some a := by
  obtain ⟨p, rest⟩ := e
  induction rest using Plan.next?_induction generalizing b with
  | step rest ih =>
    cases hn : rest.next? 0 with
    | none =>
      obtain ⟨a, ha, -⟩ := Plan.run_of_next?_none hn
      exact ⟨b, rest, a, .refl b, rfl, h, ha⟩
    | some ck =>
      obtain ⟨call, k⟩ := ck
      have hreply : b.step topic (.reply 0 0 fate) =
          { b with underway := [⟨p, k (fate call)⟩], log := b.log ++ [.answered ⟨call, fate call⟩] } := by
        simp only [Bench.step, Bench.reply, h, List.getElem?_cons_zero, hn, List.set_cons_zero]
      have hunder : (b.step topic (.reply 0 0 fate)).underway = [⟨p, k (fate call)⟩] := by rw [hreply]
      obtain ⟨c, rest', a, hleads, hmachine, hunder', ha⟩ := ih call k hn (fate call) hunder
      refine ⟨c, rest', a, (leads_step (e := .reply 0 0 fate) rfl).trans hleads, ?_, hunder', ha⟩
      rw [hmachine, hreply]
      rfl

/-- Whatever replies it gets, the dispatch of the payload that is being handled ends, and the worker is back at the head
of its loop. -/
theorem Sound.exists_ready (hb : Sound topic came b) {p : Octets} (hphase : b.phase = .handling p)
    (fate : (c : Call) → c.Reply) :
    ∃ c, Leads topic fate b c ∧ c.machine topic = { b.machine topic with phase := .ready } := by
  obtain ⟨ps, htells, -⟩ := hb.conserved
  rw [show (b.machine topic).phase = .handling p from hphase] at htells
  obtain ⟨rest, hunder⟩ : ∃ rest, b.underway = [⟨p, rest⟩] := by
    cases htells with
    | busy es hunder => exact ⟨_, hunder⟩
  obtain ⟨c, rest, a, hleads, hmachine, hunder, ha⟩ := leads_ended hunder fate
  have hhandling : c.phase = .handling p := (congrArg Worker.State.phase hmachine).trans hphase
  refine ⟨_, hleads.trans (leads_step (e := .conclude 0) trivial), ?_⟩
  rw [← hmachine]
  simp only [Bench.step, Bench.conclude, hunder, List.getElem?_cons_zero, ha, if_pos hhandling]
  exact machine_finish hhandling

/-- Whatever it is at, the worker gets to look for the next payload, unless it has stopped. -/
theorem Sound.exists_looking (hb : Sound topic came b) (hstop : (b.machine topic).phase ≠ .stopped)
    (fate : (c : Call) → c.Reply) : ∃ c, Leads topic fate b c ∧
      ((c.machine topic).phase = .ready ∨ (c.machine topic).phase = .waiting) ∧
      (c.machine topic).queue = (b.machine topic).queue ∧ (c.machine topic).flag = (b.machine topic).flag := by
  cases hphase : (b.machine topic).phase with
  | ready => exact ⟨b, .refl b, .inl hphase, rfl, rfl⟩
  | waiting => exact ⟨b, .refl b, .inr hphase, rfl, rfl⟩
  | stopped => exact absurd hphase hstop
  | handling p =>
    obtain ⟨c, hleads, hmachine⟩ := hb.exists_ready hphase fate
    exact ⟨c, hleads, .inl (by rw [hmachine]), by rw [hmachine], by rw [hmachine]⟩
  | resting since =>
    -- the rest is let pass to its end
    have hnow := hb.steady.rested since hphase
    have hle : (b.machine topic).now + (since + Worker.restLength - (b.machine topic).now) ≤
        since + Worker.restLength := by omega
    have hend : since + Worker.restLength ≤
        (b.machine topic).now + (since + Worker.restLength - (b.machine topic).now) := by omega
    have hpass : Worker.step (b.machine topic) (.pass (since + Worker.restLength - (b.machine topic).now)) =
        some { b.machine topic with
          now := (b.machine topic).now + (since + Worker.restLength - (b.machine topic).now) } := by
      simp only [Worker.step, hphase, if_pos hle]
    obtain ⟨c, hleads, hc⟩ := leads_go (.inr (.inr (.inr ⟨_, rfl⟩))) rfl hpass
    have hresume : Worker.step (c.machine topic) .resume = some { c.machine topic with phase := .ready } := by
      simp only [hc, Worker.step, hphase, if_pos hend]
    obtain ⟨d, hleads', hd⟩ := leads_go (.inr (.inr (.inl rfl))) rfl hresume
    refine ⟨d, hleads.trans hleads', .inl (by rw [hd]), ?_, ?_⟩
    · rw [hd, hc]
    · rw [hd, hc]

/-- As long as nobody tells it to stop, the worker can go on until nothing waits for it, whatever replies its dispatches
get. -/
theorem Sound.exists_rest (hb : Sound topic came b) (hflag : (b.machine topic).flag = .down)
    (fate : (c : Call) → c.Reply) : ∃ c, Leads topic fate b c ∧ (c.machine topic).phase = .waiting ∧
      (c.machine topic).queue = [] := by
  -- every payload that waits is one more round
  generalize hq : (b.machine topic).queue = queue
  induction queue generalizing b with
  | nil =>
    have hstop : (b.machine topic).phase ≠ .stopped := fun h => hb.steady.told h hflag
    obtain ⟨c, hleads, hlooks, hqueue, hflagc⟩ := hb.exists_looking hstop fate
    rw [hq] at hqueue
    rcases hlooks with hready | hwaits
    · have hlook : Worker.step (c.machine topic) .look = some { c.machine topic with phase := .waiting } := by
        simp [Worker.step, Worker.take, hready, hqueue, hflagc, hflag]
      obtain ⟨d, hleads', hd⟩ := leads_go (.inl rfl) rfl hlook
      exact ⟨d, hleads.trans hleads', by rw [hd], by rw [hd, hqueue]⟩
    · exact ⟨c, hleads, hwaits, hqueue⟩
  | cons p queue ih =>
    have hstop : (b.machine topic).phase ≠ .stopped := fun h => hb.steady.told h hflag
    obtain ⟨c, hleads, hlooks, hqueue, hflagc⟩ := hb.exists_looking hstop fate
    rw [hq] at hqueue
    rw [hflag] at hflagc
    obtain ⟨d, hleads', hd⟩ : ∃ d, Leads topic fate c d ∧
        d.machine topic = { c.machine topic with phase := .handling p, queue := queue } := by
      rcases hlooks with hready | hwaits
      · refine leads_go (m := .look) (.inl rfl) rfl ?_
        simp [Worker.step, Worker.take, hready, hqueue, hflagc]
      · refine leads_go (m := .wake) (.inr (.inl rfl)) rfl ?_
        simp [Worker.step, Worker.take, hwaits, hqueue]
    have hsound := hb.leads (hleads.trans hleads')
    obtain ⟨e, hleads'', hwaits, hempty⟩ := ih hsound (by rw [hd]; exact hflagc) (by rw [hd])
    exact ⟨e, (hleads.trans hleads').trans hleads'', hwaits, hempty⟩

/-! ## The whole run -/

theorem step_flag (topic : String) (b : Bench) (e : Step) :
    (b.step topic e).flag = b.flag ∨ e = .move .raise ∨ e = .move .abandon := by
  have hgo : ∀ m, m ≠ .raise → m ≠ .abandon → (b.go topic m).flag = b.flag := by
    intro m hraise habandon
    rcases go_cases b m with he | ⟨s, hmakes, ⟨-, he⟩ | ⟨p, -, he⟩⟩ <;> rw [he]
    all_goals exact hmakes.flag_eq hraise habandon
  cases e with
  | move m =>
    by_cases hraise : m = .raise
    · exact .inr (.inl (congrArg _ hraise))
    by_cases habandon : m = .abandon
    · exact .inr (.inr (congrArg _ habandon))
    left
    rw [step]
    split
    · exact hgo m hraise habandon
    · rfl
  | produce t p => exact .inl rfl
  | reply i j r =>
    left
    simp only [step, reply]
    split
    · rfl
    · split <;> rfl
  | conclude i =>
    left
    simp only [step, conclude]
    split
    · rfl
    · split
      · rfl
      · split
        · exact hgo .finish nofun nofun
        · rfl

/-- Only who raises the flag or leaves tells the worker to stop. -/
theorem run_flag (topic : String) (b : Bench) (es : List Step) :
    (b.run topic es).flag = b.flag ∨ .move .raise ∈ es ∨ .move .abandon ∈ es := by
  induction es generalizing b with
  | nil => exact .inl rfl
  | cons e es ih =>
    rcases ih (b.step topic e) with h | h | h
    · rcases step_flag topic b e with he | rfl | rfl
      · exact .inl (h.trans he)
      · exact .inr (.inl List.mem_cons_self)
      · exact .inr (.inr List.mem_cons_self)
    · exact .inr (.inl (List.mem_cons_of_mem _ h))
    · exact .inr (.inr (List.mem_cons_of_mem _ h))

/-- **Nothing is lost on the bench.** Let the worker begin with any queues and any flag, and let anything happen:
payloads come to any topic at any time, the queue fails any number of times, dispatches get any replies, and the flag is
raised or abandoned whenever somebody likes. At every moment the payloads handed to dispatches, followed by those that
wait, are those that the topic had and those that came, in their order. The log tells whole dispatches one after
another, and at most one more, which is that of the payload being handled. When the worker has stopped all dispatches are whole,
and somebody told it to stop. As long as nobody does, it can go on until everything that came has been dispatched,
whatever replies the dispatches get. -/
theorem nothing_is_lost (topic : String) (queues : Queues) (flag : Worker.Flag) (now : Nat) (es : List Step) :
    let b := run topic (opened queues flag now) es
    let came := queues.waiting topic ++ es.filterMap (Step.put? topic)
    handed b.log ++ b.queues.waiting topic = came ∧
    (∃ ps, Tells b ps b.phase.payload?) ∧
    (b.phase = .stopped → InTurn (handed b.log) b.log ∧
      (flag ≠ .down ∨ .move .raise ∈ es ∨ .move .abandon ∈ es)) ∧
    (b.flag = .down → ∀ fate : (c : Call) → c.Reply, ∃ more : List Step, (∀ e ∈ more, e.GoesOn fate) ∧
      (b.run topic more).phase = .waiting ∧ (b.run topic more).queues.waiting topic = [] ∧
      InTurn came (b.run topic more).log) := by
  intro b came
  have hb : Sound topic came b := (opened_sound queues flag now).run es
  obtain ⟨ps, htells, hcame⟩ := hb.conserved
  refine ⟨hb.handed_eq, ⟨ps, htells⟩, fun hstop => ⟨?_, ?_⟩, fun hdown fate => ?_⟩
  · have hphase : (b.machine topic).phase.payload? = none := by
      rw [show (b.machine topic).phase = .stopped from hstop]
      rfl
    rw [hphase] at htells
    cases htells with
    | idle hunder hlog =>
      rw [hlog.handed_eq]
      exact hlog
  · rcases run_flag topic (opened queues flag now) es with h | h
    · exact .inl fun hdown => hb.steady.told hstop (h.trans hdown)
    · exact .inr h
  · obtain ⟨c, hleads, hwaits, hempty⟩ := hb.exists_rest hdown fate
    obtain ⟨ps', htells', hcame'⟩ := (hb.leads hleads).conserved
    obtain ⟨more, hmore, rfl⟩ := hleads
    refine ⟨more, hmore, hwaits, hempty, ?_⟩
    rw [hwaits] at htells' hcame'
    rw [hempty, List.append_nil] at hcame'
    cases htells' with
    | idle hunder hlog =>
      rw [← hcame']
      simpa [Worker.Phase.payload?] using hlog

/-- A payload that cannot be read is dispatched, the queue fails, and another payload comes before the worker is told to
stop. -/
def rough : List Step :=
  [.produce "t" [], .move .look, .conclude 0, .move .refused, .move (.pass 1000), .move .resume, .produce "t" [1],
    .move .raise, .move .look]

/-- The worker has then dispatched the first payload, and left the other one where it was; before it is told to stop, it
could have gone on to the end. -/
theorem nothing_is_lost_rough :
    InTurn [[]] (run "t" (opened [] .down 0) rough).log ∧
    (run "t" (opened [] .down 0) rough).queues.waiting "t" = [[1]] ∧
    ∀ fate, ∃ more : List Step, (∀ e ∈ more, e.GoesOn fate) ∧
      ((run "t" (opened [] .down 0) (rough.take 7)).run "t" more).phase = .waiting ∧
      ((run "t" (opened [] .down 0) (rough.take 7)).run "t" more).queues.waiting "t" = [] ∧
      InTurn [[], [1]] ((run "t" (opened [] .down 0) (rough.take 7)).run "t" more).log := by
  obtain ⟨hlost, -, hstopped, -⟩ := nothing_is_lost "t" [] .down 0 rough
  obtain ⟨-, -, -, hrest⟩ := nothing_is_lost "t" [] .down 0 (rough.take 7)
  have hhanded : handed (run "t" (opened [] .down 0) rough).log = [[]] := by decide +kernel
  obtain ⟨hturn, -⟩ := hstopped (by decide +kernel)
  rw [hhanded] at hturn hlost
  exact ⟨hturn, (List.cons.inj hlost).2, hrest (by decide +kernel)⟩

end Bench

end Courier
