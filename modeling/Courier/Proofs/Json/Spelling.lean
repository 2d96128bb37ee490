import Courier.Json.Reading
import Courier.Proofs.Calendar.InstantText
import Courier.Proofs.Json.Skipping
import Mathlib.Data.List.Perm.Basic

/-!
# Spellings

A text can stand for a value of a shape in many ways, and `Shape.Denotes s x o` says what `o` stands for: the value, or
none where some object in it has a field twice or lacks one that it must have. The members of an object have their names
in any order (`Fields.Tells.perm`) and among any others, a list in the place of an object has all fields in their order
(`Fields.Lists`), and the entries of a keyed collection stand in any order (`Shape.denotes_keyed`). The canonical text of
a value is one of its spellings (`Shape.denotes_write`).
-/

namespace Courier

namespace Json

variable {α β : Type}

/-! ## Shapes whose values can be told apart -/

/-- Whether the values of a shape may be missing. -/
def Shape.isOptional : Shape → Bool
  | .optional _ => true
  | _ => false

def Fields.names : Fields → List String
  | .nil => []
  | .cons name _ _ fs => name :: fs.names

mutual

/-- No optional value is optional itself, and no record has a field twice. -/
def Shape.Proper : Shape → Prop
  | .list s => s.Proper
  | .optional s => s.Proper ∧ s.isOptional = false
  | .keyed s => s.Proper
  | .record fs => fs.Proper ∧ fs.names.Nodup
  | _ => True

def Fields.Proper : Fields → Prop
  | .nil => True
  | .cons _ _ s fs => s.Proper ∧ fs.Proper

end

/-! ## What texts stand for -/

/-- Two values, if both are there. -/
def both (x : Option α) (y : Option β) : Option (α × β) := x.bind fun a => y.map (Prod.mk a)

/-- The value that is told once. When it is not told at all there is another one in its place, if any, and when it is told
more than once there is none. -/
def once (otherwise : Option α) : List (Option α) → Option α
  | [] => otherwise
  | [x] => x
  | _ :: _ :: _ => none

/-- The texts of the values in the members with a name. -/
def named (name : String) (ms : List (String × Member)) : List Octets :=
  (ms.filter fun m => m.1 = name).map fun m => m.2.value.text

/-- The value of a field that an object leaves out, if it may. -/
def Shape.whenOmitted (s : Shape) (absence : Absence) : Option s.Value :=
  if absence = .refused then none else s.empty?

/-- An entry with its key, if it is there. -/
def entry (e : Int64 × Option α) : Option (Int64 × α) := e.2.map (Prod.mk e.1)

/-- A whole number between quotes. -/
def keyLabel (k : Int64) : Octets := code '"' :: (writeInt k.toInt ++ [code '"'])

mutual

/-- What a text stands for: a value, or none where it has objects with a field twice, or without one that it must have. -/
def Shape.Denotes : (s : Shape) → Option s.Value → Octets → Prop
  | .text, x, o => ∃ t : String, x = some t ∧ Quotes t o
  | .integer, x, o => ∃ n : Int64, x = some n ∧ o = writeInt n.toInt
  | .octet, x, o => ∃ b : UInt8, x = some b ∧ o = writeInt b.toNat
  | .platform, x, o => ∃ p : Platform, x = some p ∧ Quotes p.name o
  | .instant, x, o => ∃ (i : Instant) (t : String), x = some i ∧ Instant.parse? t = some i ∧ Quotes t o
  | .list s, x, o => ∃ (gap : Octets) (xs : List (Option s.Value)) (ts : List Spaced), Blanks gap ∧
    List.Forall₂ (fun y t => s.Denotes y t.text) xs ts ∧ x = xs.mapM id ∧ o = listText gap ts
  | .optional s, x, o => x = some none ∧ o = Octets.ofText "null" ∨ ∃ y, x = y.map some ∧ s.Denotes y o
  | .keyed s, x, o => ∃ (gap : Octets) (es : List (Int64 × Option s.Value)) (ms : List Member), Blanks gap ∧
    List.Forall₂ (fun e m => m.label = keyLabel e.1 ∧ s.Denotes e.2 m.value.text) es ms ∧
    x = (es.mapM entry).map Keyed.ofList ∧ o = objectText gap ms
  | .record fs, x, o =>
    (∃ (gap : Octets) (ms : List (String × Member)), Blanks gap ∧ (∀ m ∈ ms, Quotes m.1 m.2.label) ∧
      (∀ m ∈ ms, m.1 ∉ fs.names → JsonText m.2.value.text) ∧ fs.Tells x ms ∧
      o = objectText gap (ms.map Prod.snd)) ∨
    ∃ (gap : Octets) (ts : List Spaced), Blanks gap ∧ fs.Lists x ts ∧ o = listText gap ts

/-- What the members of an object tell of the fields of a record. -/
def Fields.Tells : (fs : Fields) → Option fs.Value → List (String × Member) → Prop
  | .nil, x, _ => x = some ()
  | .cons name absence s fs, x, ms => ∃ (ys : List (Option s.Value)) (z : Option fs.Value),
    List.Forall₂ s.Denotes ys (named name ms) ∧ fs.Tells z ms ∧ x = both (once (s.whenOmitted absence) ys) z

/-- What the texts of a list tell of the fields of a record, all of them in their order. -/
def Fields.Lists : (fs : Fields) → Option fs.Value → List Spaced → Prop
  | .nil, x, ts => x = some () ∧ ts = []
  | .cons _ _ s fs, x, ts => ∃ (y : Option s.Value) (z : Option fs.Value) (t : Spaced) (us : List Spaced),
    ts = t :: us ∧ s.Denotes y t.text ∧ fs.Lists z us ∧ x = both y z

end

/-- What a text stands for begins with an octet that a list takes for a value, and only a missing value begins as `null`
does. -/
theorem Shape.denotes_cons : ∀ {s : Shape} {x : Option s.Value} {o : Octets}, s.Denotes x o →
    ∃ b t, o = b :: t ∧ OpensValue b ∧ (s.isOptional = false → b ≠ code 'n')
  | .text, _, _, h => by
    obtain ⟨t, -, ps, -, -, rfl⟩ := h
    exact ⟨_, _, rfl, ⟨rfl, by decide⟩, fun _ => by decide⟩
  | .integer, _, _, h => by
    obtain ⟨n, -, rfl⟩ := h
    obtain ⟨b, o, ho, hb⟩ := writeInt_cons n.toInt
    have hopens := opensValue_of_beginsNumeral hb
    exact ⟨b, o, ho, hopens.1, fun _ => hopens.2⟩
  | .octet, _, _, h => by
    obtain ⟨c, -, rfl⟩ := h
    obtain ⟨b, o, ho, hb⟩ := writeInt_cons c.toNat
    have hopens := opensValue_of_beginsNumeral hb
    exact ⟨b, o, ho, hopens.1, fun _ => hopens.2⟩
  | .platform, _, _, h => by
    obtain ⟨p, -, ps, -, -, rfl⟩ := h
    exact ⟨_, _, rfl, ⟨rfl, by decide⟩, fun _ => by decide⟩
  | .instant, _, _, h => by
    obtain ⟨i, t, -, -, ps, -, -, rfl⟩ := h
    exact ⟨_, _, rfl, ⟨rfl, by decide⟩, fun _ => by decide⟩
  | .list s, _, _, h => by
    obtain ⟨gap, xs, ts, -, -, -, rfl⟩ := h
    exact ⟨_, _, rfl, ⟨rfl, by decide⟩, fun _ => by decide⟩
  | .optional s, _, _, h => by
    rcases h with ⟨-, rfl⟩ | ⟨y, -, hy⟩
    · exact ⟨_, _, rfl, ⟨rfl, by decide⟩, nofun⟩
    · obtain ⟨b, t, ho, hopens, -⟩ := Shape.denotes_cons hy
      exact ⟨b, t, ho, hopens, nofun⟩
  | .keyed s, _, _, h => by
    obtain ⟨gap, es, ms, -, -, -, rfl⟩ := h
    exact ⟨_, _, rfl, ⟨rfl, by decide⟩, fun _ => by decide⟩
  | .record fs, _, _, h => by
    rcases h with ⟨gap, ms, -, -, -, -, rfl⟩ | ⟨gap, ts, -, -, rfl⟩
    · exact ⟨_, _, rfl, ⟨rfl, by decide⟩, fun _ => by decide⟩
    · exact ⟨_, _, rfl, ⟨rfl, by decide⟩, fun _ => by decide⟩

theorem Shape.opens_of_denotes {s : Shape} {x : Option s.Value} {o : Octets} (h : s.Denotes x o) : Opens o := by
  obtain ⟨b, t, rfl, hopens, -⟩ := Shape.denotes_cons h
  exact hopens

/-! ## What members tell -/

theorem named_cons_self (name : String) (m : Member) (ms : List (String × Member)) :
    named name ((name, m) :: ms) = m.value.text :: named name ms := by
  simp [named]

theorem named_cons_of_ne {name key : String} (h : key ≠ name) (m : Member) (ms : List (String × Member)) :
    named name ((key, m) :: ms) = named name ms := by
  simp [named, h]

theorem named_eq_nil {name : String} {ms : List (String × Member)} (h : ∀ m ∈ ms, m.1 ≠ name) : named name ms = [] := by
  rw [named, List.filter_eq_nil_iff.mpr fun m hm => by simpa using h m hm, List.map_nil]

theorem both_eq_some_iff {x : Option α} {y : Option β} {a : α} {b : β} :
    both x y = some (a, b) ↔ x = some a ∧ y = some b := by
  cases x <;> cases y <;> simp [both]

theorem once_eq_some_iff {otherwise : Option α} {xs : List (Option α)} {a : α} :
    once otherwise xs = some a ↔ xs = [some a] ∨ xs = [] ∧ otherwise = some a := by
  rcases xs with _ | ⟨x, _ | ⟨y, xs⟩⟩ <;> simp [once]

theorem once_perm {otherwise : Option α} {xs ys : List (Option α)} (h : xs.Perm ys) :
    once otherwise xs = once otherwise ys := by
  match xs, ys, h.length_eq with
  | [], [], _ => rfl
  | [x], [y], _ => rw [List.singleton_perm_singleton.mp h]
  | _ :: _ :: _, _ :: _ :: _, _ => rfl

/-- The order of members does not matter. -/
theorem Fields.Tells.perm : ∀ {fs : Fields} {x : Option fs.Value} {ms ns : List (String × Member)}, ms.Perm ns →
    fs.Tells x ms → fs.Tells x ns
  | .nil, _, _, _, _, h => h
  | .cons name absence s fs, _, ms, ns, hperm, h => by
    obtain ⟨ys, z, hys, hz, rfl⟩ := h
    have hnamed : (named name ms).Perm (named name ns) := (hperm.filter _).map _
    have hzs : Relation.Comp (List.Forall₂ s.Denotes) List.Perm ys (named name ns) := ⟨_, hys, hnamed⟩
    rw [List.forall₂_comp_perm_eq_perm_comp_forall₂] at hzs
    obtain ⟨zs, hyz, hzs⟩ := hzs
    exact ⟨zs, z, hzs, hz.perm hperm, by rw [once_perm hyz]⟩

/-- A record is told when each field is told once, or not at all where its value may be left out. -/
theorem Fields.tells_some_iff {name : String} {absence : Absence} {s : Shape} {fs : Fields} {v : s.Value} {vs : fs.Value}
    {ms : List (String × Member)} :
    (Fields.cons name absence s fs).Tells (some (v, vs)) ms ↔
      ((∃ o, named name ms = [o] ∧ s.Denotes (some v) o) ∨ named name ms = [] ∧ s.whenOmitted absence = some v) ∧
        fs.Tells (some vs) ms := by
  constructor
  · rintro ⟨ys, z, hys, hz, hx⟩
    obtain ⟨honce, rfl⟩ := both_eq_some_iff.mp hx.symm
    refine ⟨?_, hz⟩
    rcases once_eq_some_iff.mp honce with rfl | ⟨rfl, habsent⟩
    · obtain ⟨o, os, ho, hos, hnamed⟩ := List.forall₂_cons_left_iff.mp hys
      rw [List.forall₂_nil_left_iff.mp hos] at hnamed
      exact .inl ⟨o, hnamed, ho⟩
    · exact .inr ⟨List.forall₂_nil_left_iff.mp hys, habsent⟩
  · rintro ⟨⟨o, hnamed, ho⟩ | ⟨hnamed, habsent⟩, hz⟩
    · exact ⟨[some v], some vs, by rw [hnamed]; exact .cons ho .nil, hz, rfl⟩
    · exact ⟨[], some vs, by rw [hnamed]; exact .nil, hz, by rw [once, habsent]; rfl⟩

/-! ## Canonical texts -/

theorem mapM_entry_some (es : List (Int64 × α)) : (es.map fun e => (e.1, some e.2)).mapM entry = some es := by
  induction es with
  | nil => rfl
  | cons e es ih => simp [List.mapM_cons, entry, ih]

/-- The entries of a keyed collection may stand in any order. -/
theorem Shape.denotes_keyed {s : Shape} {m : Keyed s.Value} {es : List (Int64 × s.Value)} (hes : es.Perm m.entries)
    {gap : Octets} (hgap : Blanks gap) {ms : List Member}
    (hms : List.Forall₂ (fun e l => l.label = keyLabel e.1 ∧ s.Denotes (some e.2) l.value.text) es ms) :
    (Shape.keyed s).Denotes (some m) (objectText gap ms) := by
  have hentries : List.Forall₂ (fun (e : Int64 × Option s.Value) l => l.label = keyLabel e.1 ∧ s.Denotes e.2 l.value.text)
      (es.map fun e => (e.1, some e.2)) ms := by
    rw [List.forall₂_map_left_iff]
    exact hms
  refine ⟨gap, _, ms, hgap, hentries, ?_, rfl⟩
  rw [mapM_entry_some, Option.map_some, Keyed.ofList_of_perm hes]
  rfl

/-- The canonical members of an object. -/
def Fields.written : (fs : Fields) → fs.Value → List (String × Member)
  | .nil, _ => []
  | .cons name _ s fs, (v, vs) => (name, .bare (quote name) (s.write v)) :: fs.written vs

theorem Fields.spaced_written : ∀ (fs : Fields) (v : fs.Value),
    ((fs.written v).map Prod.snd).map Member.spaced = (fs.writeAll v).map Spaced.bare
  | .nil, _ => rfl
  | .cons name _ s fs, (v, vs) => by
    rw [written, writeAll, List.map_cons, List.map_cons, List.map_cons, fs.spaced_written vs, Member.spaced_bare]

theorem Fields.mem_names_of_mem_written : ∀ {fs : Fields} {v : fs.Value} {m : String × Member}, m ∈ fs.written v →
    m.1 ∈ fs.names ∧ m.2.label = quote m.1
  | .nil, _, _, hm => by cases hm
  | .cons name _ s fs, (v, vs), m, hm => by
    rcases List.mem_cons.mp hm with rfl | hm
    · exact ⟨List.mem_cons_self, rfl⟩
    · obtain ⟨hname, hlabel⟩ := Fields.mem_names_of_mem_written hm
      exact ⟨List.mem_cons_of_mem _ hname, hlabel⟩

mutual

/-- The canonical text of a value stands for it. -/
theorem Shape.denotes_write : ∀ {s : Shape}, s.Proper → ∀ v : s.Value, s.Denotes (some v) (s.write v)
  | .text, _, (t : String) => ⟨t, rfl, by rw [Shape.write]; exact quotes_quote t⟩
  | .integer, _, (n : Int64) => ⟨n, rfl, by rw [Shape.write]⟩
  | .octet, _, (b : UInt8) => ⟨b, rfl, by rw [Shape.write]⟩
  | .platform, _, (p : Platform) => ⟨p, rfl, by rw [Shape.write]; exact quotes_quote p.name⟩
  | .instant, _, (i : Instant) => ⟨i, i.text, rfl, Instant.parse?_text i, by rw [Shape.write]; exact quotes_quote i.text⟩
  | .list s, hs, (vs : List s.Value) => by
    refine ⟨[], vs.map some, (vs.map s.write).map Spaced.bare, .nil, ?_, (mapM_id_some vs).symm, ?_⟩
    · rw [List.map_map, List.forall₂_map_left_iff, List.forall₂_map_right_iff, List.forall₂_same]
      exact fun v _ => Shape.denotes_write (s := s) hs v
    · rw [Shape.write, listText, row_bare]
  | .optional s, _, none => .inl ⟨rfl, by rw [Shape.write]⟩
  | .optional s, hs, some v => .inr ⟨some v, rfl, by rw [Shape.write]; exact Shape.denotes_write hs.1 v⟩
  | .keyed s, hs, (m : Keyed s.Value) => by
    have htext : (Shape.keyed s).write m =
        objectText [] (m.entries.map fun e => .bare (keyLabel e.1) (s.write e.2)) := by
      have hrow := row_bare (code '{') (code '}') (m.entries.map fun e => keyLabel e.1 ++ code ':' :: s.write e.2)
      rw [List.map_map] at hrow
      rw [Shape.write, objectText, List.map_map]
      refine Eq.trans ?_ hrow.symm
      simp [writeName, keyLabel]
    rw [htext]
    refine Shape.denotes_keyed (.refl _) .nil ?_
    rw [List.forall₂_map_right_iff, List.forall₂_same]
    exact fun e _ => And.intro rfl (Shape.denotes_write (s := s) hs e.2)
  | .record fs, hs, (v : fs.Value) => by
    refine .inl ⟨[], fs.written v, .nil, ?_, ?_, fs.tells_written hs.1 hs.2 v _ fun _ _ => rfl, ?_⟩
    · intro m hm
      rw [(Fields.mem_names_of_mem_written hm).2]
      exact quotes_quote m.1
    · exact fun m hm hunknown => absurd (Fields.mem_names_of_mem_written hm).1 hunknown
    · rw [Shape.write, objectText, fs.spaced_written, row_bare]

theorem Fields.tells_written : ∀ (fs : Fields), fs.Proper → fs.names.Nodup → ∀ (v : fs.Value) (ms : List (String × Member)),
    (∀ name ∈ fs.names, named name ms = named name (fs.written v)) → fs.Tells (some v) ms
  | .nil, _, _, _, _, _ => rfl
  | .cons name absence s fs, hfs, hnames, (v, vs), ms, hms => by
    obtain ⟨hname, hnames⟩ := List.nodup_cons.mp hnames
    have hfirst : named name ((Fields.cons name absence s fs).written (v, vs)) = [s.write v] := by
      rw [Fields.written, named_cons_self, named_eq_nil]
      · rfl
      · rintro m hm rfl
        exact hname (Fields.mem_names_of_mem_written hm).1
    have hlater : ∀ key ∈ fs.names, named key ms = named key (fs.written vs) := by
      intro key hkey
      rw [hms key (List.mem_cons_of_mem _ hkey), Fields.written, named_cons_of_ne]
      rintro rfl
      exact hname hkey
    rw [Fields.tells_some_iff, hms name List.mem_cons_self, hfirst]
    exact ⟨.inl ⟨s.write v, rfl, Shape.denotes_write hfs.1 v⟩, fs.tells_written hfs.2 hnames vs ms hlater⟩

end

end Json

end Courier
