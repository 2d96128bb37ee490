import Courier.Json.Reading
import Courier.Proofs.Json.Extending
import Courier.Proofs.Json.Shapes
import Mathlib.Data.List.TakeWhile

/-!
# Whole texts and their beginnings

The readers of all shapes are steadfast (`Shape.steadfast_read`). That of a record looks for a mark of its own at the
end, so it is not even led astray by what follows the text that it has read to its end (`Delimited`). Hence a text that
is accepted as a record has no beginning that is accepted (`Shape.decode_beginning`), and nothing but blanks may follow
it (`Shape.decode_append`).
-/

namespace Courier.Json

variable {α β σ : Type}

/-! ## Readers that never bring anything -/

/-- A reader that brings nothing from any text. -/
def Refuses (r : Reader α) : Prop := ∀ s a t, r s ≠ .ok (a, t)

theorem refuses_fail (p : Problem) : Refuses (fail p : Reader α) := nofun

theorem Refuses.after {f : α → Reader β} (hf : ∀ a, Refuses (f a)) (r : Reader α) : Refuses (r >>= f) := by
  intro s b u h
  obtain ⟨a, t, -, hfa⟩ := ok_of_bind h
  exact hf a t b u hfa

theorem Refuses.ite {c : Prop} [Decidable c] {r q : Reader α} (hr : Refuses r) (hq : Refuses q) :
    Refuses (if c then r else q) := by
  split
  · exact hr
  · exact hq

theorem Refuses.steadfast {r : Reader α} (hr : Refuses r) : Steadfast r := fun s a t h => absurd h (hr s a t)

theorem refuses_mismatched : Refuses (mismatched : Reader α) := by
  have hword : ∀ ks, Refuses (do advance; literal ks; fail .mismatch : Reader α) := fun ks =>
    .after (fun _ => .after (fun _ => refuses_fail _) _) _
  exact .after (fun b => (hword _).ite ((hword _).ite ((hword _).ite
    ((Refuses.after (fun _ => refuses_fail _) _).ite
      ((Refuses.after (fun _ => .after (fun _ => refuses_fail _) _) _).ite
        ((refuses_fail _).ite (refuses_fail _))))))) _

/-! ## Readers with a mark at the end -/

/-- A reader that looks for something else than blanks first brings nothing from blanks. -/
def NeedsMore (r : Reader α) : Prop := ∀ s a t, skipBlanks s = [] → r s ≠ .ok (a, t)

theorem needsMore_of_next (f : UInt8 → Reader α) : NeedsMore (next >>= f) := by
  intro s a t hs h
  obtain ⟨b, u, hb, -⟩ := ok_of_bind h
  simp only [next, hs] at hb
  cases hb

theorem NeedsMore.bind {r : Reader α} (hr : NeedsMore r) (f : α → Reader β) : NeedsMore (r >>= f) := by
  intro s b u hs h
  obtain ⟨a, t, ha, -⟩ := ok_of_bind h
  exact hr s a t hs ha

theorem skipBlanks_eq_nil_iff {s : Octets} : skipBlanks s = [] ↔ s.all isBlank = true := by
  rw [skipBlanks, List.dropWhile_eq_nil_iff, List.all_eq_true]

theorem skipBlanks_of_suffix {s t : Octets} (hts : t <:+ s) (hs : skipBlanks s = []) : skipBlanks t = [] := by
  rw [skipBlanks_eq_nil_iff, List.all_eq_true] at hs ⊢
  exact fun b hb => hs b (hts.subset hb)

/-- A reader that looks for a mark of its own at the end: what follows does not change what it brings. -/
structure Delimited (r : Reader α) : Prop where
  needsMore : NeedsMore r
  append : ∀ s a t, r s = .ok (a, t) → t <:+ s ∧ ∀ more, r (s ++ more) = .ok (a, t ++ more)

theorem Delimited.steadfast {r : Reader α} (hr : Delimited r) : Steadfast r := fun s a t h =>
  ⟨(hr.append s a t h).1, fun _ => (hr.append s a t h).2⟩

theorem Refuses.delimited {r : Reader α} (hr : Refuses r) : Delimited r :=
  ⟨fun s a t _ => hr s a t, fun s a t h => absurd h (hr s a t)⟩

theorem Delimited.ite {c : Prop} [Decidable c] {r q : Reader α} (hr : Delimited r) (hq : Delimited q) :
    Delimited (if c then r else q) := by
  split
  · exact hr
  · exact hq

/-- The mark may stand after something else. -/
theorem Upholds.delimited {r : Reader α} {f : α → Reader β} (hr : Steadfast r) (hf : ∀ a, Delimited (f a)) :
    Delimited (r >>= f) := by
  refine ⟨fun s b u hs h => ?_, fun s b u h => ?_⟩
  · obtain ⟨a, t, hra, hfa⟩ := ok_of_bind h
    exact (hf a).needsMore t b u (skipBlanks_of_suffix (hr s a t hra).1 hs) hfa
  · obtain ⟨a, t, hra, hfa⟩ := ok_of_bind h
    obtain ⟨hts, hrmore⟩ := hr s a t hra
    obtain ⟨hut, hfmore⟩ := (hf a).append t b u hfa
    have ht : t ≠ [] := by
      rintro rfl
      exact (hf a).needsMore [] b u rfl hfa
    refine ⟨hut.trans hts, fun more => ?_⟩
    rw [bind_of_ok (hrmore ht more)]
    exact hfmore more

theorem Delimited.map {r : Reader α} (hr : Delimited r) (f : α → β) : Delimited (do let a ← r; pure (f a)) := by
  refine ⟨hr.needsMore.bind _, fun s b u h => ?_⟩
  obtain ⟨a, t, hra, hb⟩ := ok_of_bind h
  cases hb
  obtain ⟨hts, hmore⟩ := hr.append s a u hra
  refine ⟨hts, fun more => ?_⟩
  rw [bind_of_ok (hmore more)]
  rfl

theorem delimited_expect (b : UInt8) : Delimited (expect b) := by
  refine ⟨needsMore_of_next _, fun s a t h => ?_⟩
  refine ⟨(steadfast_expect b s a t h).1, fun more => ?_⟩
  obtain ⟨c, u, hc, hadvance⟩ := ok_of_bind h
  unfold next at hc
  split at hc
  · cases hc
  · next r hs =>
    cases hc
    have hmore : next (s ++ more) = .ok (c, c :: (r ++ more)) := by
      simp only [next, skipBlanks_append (s := s) (by rw [hs]; exact List.cons_ne_nil _ _), hs, List.cons_append]
    rw [expect, bind_of_ok hmore]
    rw [ite_read] at hadvance ⊢
    split at hadvance
    · next hcb =>
      cases hadvance
      rw [if_pos hcb]
      rfl
    · cases hadvance

/-! ## Values of a shape -/

theorem steadfast_readText : Steadfast readText :=
  steadfast_next.bind fun _ => (steadfast_advance.bind fun _ => steadfast_unquote).ite refuses_mismatched.steadfast

theorem steadfast_readWhole (fit : Int → Option α) : Steadfast (readWhole fit) := by
  refine steadfast_next.bind fun _ => (steadfast_numeral.bind fun x => ?_).ite refuses_mismatched.steadfast
  cases x with
  | whole n =>
    dsimp only
    split
    · exact steadfast_pure _
    · exact steadfast_fail _
  | fractional m e => exact steadfast_fail _

theorem steadfast_readNull : Steadfast readNull :=
  steadfast_next.bind fun _ => (steadfast_advance.bind fun _ => steadfast_literal _).ite refuses_mismatched.steadfast

theorem steadfast_platformNamed (s : String) : Steadfast (platformNamed s) := by
  unfold platformNamed
  split
  · exact steadfast_pure _
  · exact steadfast_fail _

theorem steadfast_readPlatform : Steadfast readPlatform :=
  steadfast_next.bind fun _ =>
    (steadfast_advance.bind fun _ => steadfast_unquote.bind fun s => steadfast_platformNamed s).ite
      ((steadfast_advance.bind fun _ => (steadfast_expect _).bind fun _ => steadfast_unquote.bind fun s =>
        (steadfast_platformNamed s).bind fun _ => (steadfast_expect _).bind fun _ => steadfast_readNull.bind fun _ =>
          (steadfast_expect _).bind fun _ => steadfast_pure _).ite (steadfast_fail _))

theorem steadfast_readInstant : Steadfast readInstant := by
  refine steadfast_readText.bind fun s => ?_
  split
  · exact steadfast_pure _
  · exact steadfast_fail _

theorem Upholds.readList {item : Reader α} (hitem : Steadfast item) : Steadfast (readList item) :=
  steadfast_next.bind fun _ =>
    (steadfast_advance.bind fun _ => hitem.allElements.bind fun _ => (steadfast_expect _).bind fun _ =>
      steadfast_pure _).ite refuses_mismatched.steadfast

theorem NeedsMore.readOptional {item : Reader α} (hitem : NeedsMore item) : NeedsMore (readOptional item) := by
  intro s a t hs h
  simp only [Json.readOptional, hs] at h
  cases hread : item s with
  | error p =>
    rw [hread] at h
    cases h
  | ok bu => exact hitem s bu.1 bu.2 hs hread

/-- An optional value: unless there are only blanks, the first octet after them tells whether it is `null`. -/
theorem Upholds.readOptional {item : Reader α} (hitem : Steadfast item) (hmore : NeedsMore item) :
    Steadfast (readOptional item) := by
  intro s a t h
  cases hs : skipBlanks s with
  | nil => exact absurd h (hmore.readOptional s a t hs)
  | cons b r =>
    have hblanks : ∀ more, skipBlanks (s ++ more) = b :: (r ++ more) := by
      intro more
      rw [skipBlanks_append (by rw [hs]; exact List.cons_ne_nil _ _), hs, List.cons_append]
    simp only [Json.readOptional, hs] at h
    simp only [Json.readOptional, hblanks]
    split at h
    · next hn =>
      rw [map_read (literal _) fun _ => none] at h
      obtain ⟨hts, hrest⟩ := (steadfast_literal _).map (fun _ => none) r a t h
      refine ⟨(hts.trans (List.suffix_cons b r)).trans (hs ▸ List.dropWhile_suffix _), fun hne more => ?_⟩
      rw [if_pos hn, map_read (literal _) fun _ => none]
      exact hrest hne more
    · next hn =>
      rw [map_read item some] at h
      obtain ⟨hts, hrest⟩ := hitem.map some s a t h
      refine ⟨hts, fun hne more => ?_⟩
      rw [if_neg hn, map_read item some]
      exact hrest hne more

theorem steadfast_readKey : Steadfast readKey := by
  refine steadfast_advance.bind fun _ => (steadfast_of_head (f := fun b =>
    if beginsNumeral b then readWhole Decimal.toInt64? else fail .malformed) ?_ (fun b s => ?_)
    fun b => (steadfast_readWhole _).ite (steadfast_fail _)).bind fun k => steadfast_of_head (f := fun b =>
    if b == code '"' then do advance; pure k else fail .malformed) ?_ (fun b s => ?_)
    fun b => (steadfast_advance.bind fun _ => steadfast_pure k).ite (steadfast_fail _)
  · rintro a t ⟨⟩
  · simp only [ite_read]
    rfl
  · rintro a t ⟨⟩
  · simp only [ite_read]
    rfl

theorem Upholds.readKeyed {item : Reader α} (hitem : Steadfast item) : Steadfast (readKeyed item) := by
  have hmember : ∀ m : Keyed α, Steadfast (do
      let k ← readKey
      expect (code ':')
      pure (m.insert k (← item)) : Reader (Keyed α)) := fun m =>
    steadfast_readKey.bind fun _ => (steadfast_expect _).bind fun _ => hitem.bind fun _ => steadfast_pure _
  exact steadfast_next.bind fun _ =>
    (steadfast_advance.bind fun _ => (steadfast_allMembers hmember _).bind fun _ => (steadfast_expect _).bind fun _ =>
      steadfast_pure _).ite refuses_mismatched.steadfast

theorem steadfast_whenAbsent (s : Shape) (allowed : Bool) : Steadfast (s.whenAbsent allowed) := by
  unfold Shape.whenAbsent
  split
  · exact steadfast_pure _
  · exact steadfast_fail _

section Slots

variable {name : String} {absence : Absence} {s : Shape} {fs : Fields} (slot : Option s.Value) (slots : fs.Slots)

theorem Fields.complete_cons : (Fields.cons name absence s fs).complete (slot, slots) = (do
    let v ← match slot with
      | some v => pure v
      | none => s.whenAbsent (absence != .refused)
    let vs ← fs.complete slots
    pure (v, vs)) := rfl

theorem Fields.member_cons (key : String) : (Fields.cons name absence s fs).member key (slot, slots) =
    if key = name then
      some (match slot with
        | some _ => fail .mismatch
        | none => do
          expect (code ':')
          let v ← s.read
          pure (some v, slots))
    else (fs.member key slots).map fun r => (do let slots ← r; pure (slot, slots)) := by
  show ite _ _ _ = ite _ _ _
  congr 1
  cases fs.member key slots <;> rfl

end Slots

theorem Fields.steadfast_complete : ∀ (fs : Fields) (slots : fs.Slots), Steadfast (fs.complete slots)
  | .nil, _ => steadfast_pure ()
  | .cons _ absence s fs, (slot, slots) => by
    have hrest : ∀ v : s.Value, Steadfast (do let vs ← fs.complete slots; pure (v, vs)) := fun v =>
      (Fields.steadfast_complete fs slots).bind fun vs => steadfast_pure (v, vs)
    rw [complete_cons]
    cases slot with
    | some v => exact (steadfast_pure v).bind hrest
    | none => exact (steadfast_whenAbsent s _).bind hrest

/-- Reads a member of an object into the slots of a record. -/
theorem steadfast_member {member : String → σ → Option (Reader σ)}
    (hmember : ∀ key slots r, member key slots = some r → Steadfast r) (slots : σ) : Steadfast (do
      advance
      match member (← unquote) slots with
      | some r => r
      | none => do
        expect (code ':')
        skip
        pure slots : Reader σ) := by
  refine steadfast_advance.bind fun _ => steadfast_unquote.bind fun key => ?_
  split
  · next r hr => exact hmember key slots r hr
  · exact (steadfast_expect _).bind fun _ => steadfast_skip.bind fun _ => steadfast_pure _

theorem delimited_readRecord {member : String → σ → Option (Reader σ)} {start : σ} {complete : σ → Reader α}
    {inOrder : Bool → Reader α} (hmember : ∀ key slots r, member key slots = some r → Steadfast r)
    (hcomplete : ∀ slots, Steadfast (complete slots)) (hinOrder : ∀ first, Steadfast (inOrder first)) :
    Delimited (readRecord member start complete inOrder) :=
  steadfast_next.delimited fun _ =>
    (steadfast_advance.delimited fun _ => (steadfast_allMembers (steadfast_member hmember) start).delimited fun slots =>
      (hcomplete slots).delimited fun _ => (delimited_expect _).map _).ite
      ((steadfast_advance.delimited fun _ => (hinOrder true).delimited fun _ => (delimited_expect _).map _).ite
        refuses_mismatched.delimited)

theorem Shape.needsMore_read : ∀ s : Shape, NeedsMore s.read
  | .text => by rw [Shape.read]; exact needsMore_of_next _
  | .integer => by rw [Shape.read]; exact needsMore_of_next _
  | .octet => by rw [Shape.read]; exact needsMore_of_next _
  | .platform => by rw [Shape.read]; exact needsMore_of_next _
  | .instant => by rw [Shape.read]; exact (needsMore_of_next _).bind _
  | .list s => by rw [Shape.read]; exact needsMore_of_next _
  | .optional s => by rw [Shape.read]; exact s.needsMore_read.readOptional
  | .keyed s => by rw [Shape.read]; exact needsMore_of_next _
  | .record fs => by rw [Shape.read]; exact needsMore_of_next _

mutual

/-- **The reader of every shape is steadfast.** -/
theorem Shape.steadfast_read : ∀ s : Shape, Steadfast s.read
  | .text => by rw [Shape.read]; exact steadfast_readText
  | .integer => by rw [Shape.read]; exact steadfast_readWhole _
  | .octet => by rw [Shape.read]; exact steadfast_readWhole _
  | .platform => by rw [Shape.read]; exact steadfast_readPlatform
  | .instant => by rw [Shape.read]; exact steadfast_readInstant
  | .list s => by rw [Shape.read]; exact (Shape.steadfast_read s).readList
  | .optional s => by rw [Shape.read]; exact (Shape.steadfast_read s).readOptional s.needsMore_read
  | .keyed s => by rw [Shape.read]; exact (Shape.steadfast_read s).readKeyed
  | .record fs => by
    rw [Shape.read]
    exact (delimited_readRecord (Fields.steadfast_member fs) fs.steadfast_complete
      (Fields.steadfast_inOrder fs)).steadfast

theorem Fields.steadfast_member : ∀ (fs : Fields) (key : String) (slots : fs.Slots) (r : Reader fs.Slots),
    fs.member key slots = some r → Steadfast r
  | .nil, _, _, _, h => by cases h
  | .cons name _ s fs, key, (slot, slots), r, h => by
    rw [Fields.member_cons] at h
    split at h
    · cases h
      split
      · exact steadfast_fail _
      · exact (steadfast_expect _).bind fun _ => (Shape.steadfast_read s).bind fun v => steadfast_pure (some v, slots)
    · obtain ⟨r', hr, rfl⟩ := Option.map_eq_some_iff.mp h
      exact (Fields.steadfast_member fs key slots r' hr).bind fun slots => steadfast_pure (slot, slots)

theorem Fields.steadfast_inOrder : ∀ (fs : Fields) (first : Bool), Steadfast (fs.inOrder first)
  | .nil, _ => steadfast_pure ()
  | .cons _ absence s fs, first => by
    rw [Fields.inOrder]
    exact (steadfast_hasElement first).bind fun _ =>
      ((Shape.steadfast_read s).bind fun v => (Fields.steadfast_inOrder fs false).bind fun vs =>
        steadfast_pure (v, vs)).ite
        ((steadfast_whenAbsent s _).bind fun v => (Fields.steadfast_inOrder fs first).bind fun vs =>
          steadfast_pure (v, vs))

end

/-- **The reader of a record is delimited.** -/
theorem Shape.delimited_read (fs : Fields) : Delimited (Shape.record fs).read := by
  rw [Shape.read]
  exact delimited_readRecord fs.steadfast_member fs.steadfast_complete fs.steadfast_inOrder

/-! ## Whole texts -/

/-- What a delimited reader takes to the end has no beginning that it takes at all. -/
theorem Delimited.whole_beginning {r : Reader α} (hr : Delimited r) {cut rest : Octets} {a : α}
    (h : r (cut ++ rest) = .ok (a, [])) (hne : rest ≠ []) : ∃ p, whole r cut = .error p := by
  unfold whole
  cases hcut : r cut with
  | error p => exact ⟨p, rfl⟩
  | ok bt =>
    obtain ⟨b, t⟩ := bt
    have hmore := (hr.append cut b t hcut).2 rest
    rw [h] at hmore
    injection hmore with hmore
    injection hmore with _ hnil
    exact absurd (List.append_eq_nil_iff.mp hnil.symm).2 hne

/-- Blanks may follow what a delimited reader takes to the end, and nothing else. -/
theorem Delimited.whole_append {r : Reader α} (hr : Delimited r) {o : Octets} {a : α} (h : r o = .ok (a, []))
    (more : Octets) : whole r (o ++ more) = if more.all isBlank = true then .ok a else .error .malformed := by
  simp only [whole, (hr.append o a [] h).2 more, List.nil_append, skipBlanks_eq_nil_iff]

section Written

variable {s : Shape} (hs : s.Proper) (hread : Delimited s.read) (v : s.Value)

include hs

theorem Shape.read_write : s.read (s.write v) = .ok (v, []) := by
  have htakes := Shape.takes_write hs v [] trivial
  rwa [List.append_nil] at htakes

include hread

/-- **No beginning of what is written of a record stands for a record.** -/
theorem Shape.decode_beginning {cut : Octets} (hcut : cut <+: s.write v) (hne : cut ≠ s.write v) :
    ∃ p, s.decode cut = .error p := by
  obtain ⟨rest, hrest⟩ := hcut
  have hrne : rest ≠ [] := by
    rintro rfl
    exact hne (by rw [← hrest, List.append_nil])
  exact hread.whole_beginning (hrest ▸ Shape.read_write hs v) hrne

/-- **Only blanks may follow what is written of a record.** -/
theorem Shape.decode_append (more : Octets) :
    s.decode (s.write v ++ more) = if more.all isBlank = true then .ok v else .error .malformed :=
  hread.whole_append (Shape.read_write hs v) more

end Written

/-- What is written of a value is never blank. -/
theorem Shape.write_not_blank (s : Shape) (v : s.Value) : (s.write v).all isBlank = false := by
  have hopens := s.opens_write v
  cases hw : s.write v with
  | nil =>
    rw [hw] at hopens
    exact hopens.elim
  | cons b o =>
    rw [hw] at hopens
    rw [List.all_cons, hopens.1, Bool.false_and]

end Courier.Json
