import Courier.FailureRecord
import Courier.Notification
import Courier.Proofs.Json.Shapes

/-!
# Every spelling is read

For every type that travels as a record, each text that stands for a value is read as that value, and an object whose
members are in order one by one is a mismatch if it has a field twice or lacks one that it must have
(`every_spelling_read`). What stands for a value is said by `Shape.Denotes`; here it is shown that an object of either fault
stands for nothing (`Fields.Tells.eq_none`), and that whole texts are read with blanks around them
(`Shape.decode_spaced`).
-/

namespace Courier

open Json

namespace Json

/-! ## Objects with a fault -/

/-- The names of the fields that an object may leave out, or of those that it may not. -/
def Fields.namesOf (omittable : Bool) : Fields → List String
  | .nil => []
  | .cons name absence s fs =>
    if (s.whenOmitted absence).isSome = omittable then name :: fs.namesOf omittable else fs.namesOf omittable

/-- The fields of a record. -/
def Shape.fields : Shape → Fields
  | .record fs => fs
  | _ => .nil

/-- What the value of a member may be: a text of the field with its name, which may have a fault itself, and any text of
JSON when no field has this name. -/
def Fields.Bears : Fields → String → Octets → Prop
  | .nil, _, o => JsonText o
  | .cons name _ s fs, key, o => if key = name then ∃ x, s.Denotes x o else fs.Bears key o

/-- An object of a record whose members are in order one by one, but which has a field twice or lacks one that it must
have. -/
def Shape.Flawed : Shape → Octets → Prop
  | .record fs, o => ∃ (gap : Octets) (ms : List (String × Member)), Blanks gap ∧
    (∀ m ∈ ms, Quotes m.1 m.2.label ∧ fs.Bears m.1 m.2.value.text) ∧
    ((∃ name ∈ fs.names, 1 < (ms.map Prod.fst).count name) ∨ ∃ name ∈ fs.namesOf false, name ∉ ms.map Prod.fst) ∧
    o = objectText gap (ms.map Prod.snd)
  | _, _ => False

theorem length_named (name : String) (ms : List (String × Member)) :
    (named name ms).length = (ms.map Prod.fst).count name := by
  induction ms with
  | nil => rfl
  | cons m ms ih =>
    obtain ⟨key, m⟩ := m
    by_cases h : key = name
    · subst h
      rw [named_cons_self, List.map_cons, List.count_cons_self, List.length_cons, ih]
    · rw [named_cons_of_ne h, List.map_cons, List.count_cons_of_ne h, ih]

/-- The flaws of an object are those of its first field or those of the others. -/
theorem Fields.flaw_cons {name : String} {absence : Absence} {s : Shape} {fs : Fields} {ms : List (String × Member)}
    (h : (∃ key ∈ (Fields.cons name absence s fs).names, 1 < (ms.map Prod.fst).count key) ∨
      ∃ key ∈ (Fields.cons name absence s fs).namesOf false, key ∉ ms.map Prod.fst) :
    (1 < (ms.map Prod.fst).count name ∨ s.whenOmitted absence = none ∧ name ∉ ms.map Prod.fst) ∨
      (∃ key ∈ fs.names, 1 < (ms.map Prod.fst).count key) ∨ ∃ key ∈ fs.namesOf false, key ∉ ms.map Prod.fst := by
  rcases h with ⟨key, hkey, hcount⟩ | ⟨key, hkey, hmissing⟩
  · rcases List.mem_cons.mp hkey with rfl | hkey
    · exact .inl (.inl hcount)
    · exact .inr (.inl ⟨key, hkey, hcount⟩)
  · rw [namesOf] at hkey
    split at hkey
    · next homitted =>
      rcases List.mem_cons.mp hkey with rfl | hkey
      · exact .inl (.inr ⟨Option.not_isSome_iff_eq_none.mp (by simpa using homitted), hmissing⟩)
      · exact .inr (.inr ⟨key, hkey, hmissing⟩)
    · exact .inr (.inr ⟨key, hkey, hmissing⟩)

/-- A field that is told twice, or is not told though it has to be, leaves a record without a value. -/
theorem Fields.Tells.eq_none : ∀ {fs : Fields} {x : Option fs.Value} {ms : List (String × Member)}, fs.Tells x ms →
    ((∃ name ∈ fs.names, 1 < (ms.map Prod.fst).count name) ∨ ∃ name ∈ fs.namesOf false, name ∉ ms.map Prod.fst) → x = none
  | .nil, _, _, _, hflaw => by
    rcases hflaw with ⟨name, hname, -⟩ | ⟨name, hname, -⟩ <;> exact absurd hname List.not_mem_nil
  | .cons name absence s fs, x, ms, h, hflaw => by
    obtain ⟨ys, z, hys, hz, rfl⟩ := h
    have hlength : ys.length = (ms.map Prod.fst).count name := hys.length_eq.trans (length_named name ms)
    rcases Fields.flaw_cons hflaw with (hcount | ⟨homitted, hmissing⟩) | hlater
    · rw [← hlength] at hcount
      match ys with
      | [] | [_] => simp at hcount
      | _ :: _ :: _ => rfl
    · rw [List.count_eq_zero.mpr hmissing, List.length_eq_zero_iff] at hlength
      rw [hlength, once, homitted]
      rfl
    · rw [Fields.Tells.eq_none hz hlater]
      cases once (s.whenOmitted absence) ys <;> rfl

/-- What a field is told by members that are in order. -/
theorem exists_forall₂_denotes {s : Shape} {os : List Octets} (h : ∀ o ∈ os, ∃ x, s.Denotes x o) :
    ∃ xs, List.Forall₂ s.Denotes xs os := by
  induction os with
  | nil => exact ⟨[], .nil⟩
  | cons o os ih =>
    obtain ⟨x, hx⟩ := h o List.mem_cons_self
    obtain ⟨xs, hxs⟩ := ih fun p hp => h p (List.mem_cons_of_mem _ hp)
    exact ⟨x :: xs, .cons hx hxs⟩

/-- Members that are in order tell something of a record. -/
theorem Fields.exists_tells : ∀ {fs : Fields}, fs.names.Nodup → ∀ {ms : List (String × Member)},
    (∀ m ∈ ms, m.1 ∈ fs.names → fs.Bears m.1 m.2.value.text) → ∃ x, fs.Tells x ms
  | .nil, _, _, _ => ⟨some (), rfl⟩
  | .cons name absence s fs, hnames, ms, h => by
    obtain ⟨hname, hnames⟩ := List.nodup_cons.mp hnames
    have hfirst : ∀ o ∈ named name ms, ∃ x, s.Denotes x o := by
      intro o ho
      obtain ⟨m, hm, rfl⟩ := List.mem_map.mp ho
      obtain ⟨hm, hkey⟩ := List.mem_filter.mp hm
      have hkey : m.1 = name := of_decide_eq_true hkey
      have hbears := h m hm (hkey ▸ List.mem_cons_self)
      rwa [Bears, if_pos hkey] at hbears
    have hlater : ∀ m ∈ ms, m.1 ∈ fs.names → fs.Bears m.1 m.2.value.text := by
      intro m hm hkey
      have hne : m.1 ≠ name := fun he => hname (he ▸ hkey)
      have hbears := h m hm (List.mem_cons_of_mem _ hkey)
      rwa [Bears, if_neg hne] at hbears
    obtain ⟨ys, hys⟩ := exists_forall₂_denotes hfirst
    obtain ⟨z, hz⟩ := Fields.exists_tells hnames hlater
    exact ⟨_, ys, z, hys, hz, rfl⟩

/-- A member that belongs to no field holds a text of JSON. -/
theorem Fields.Bears.jsonText : ∀ {fs : Fields} {key : String} {o : Octets}, fs.Bears key o → key ∉ fs.names → JsonText o
  | .nil, _, _, h, _ => h
  | .cons name _ _ fs, key, o, h, hkey => by
    obtain ⟨hne, hkey⟩ := not_or.mp (mt List.mem_cons.mpr hkey)
    rw [Bears, if_neg hne] at h
    exact h.jsonText hkey

/-- An object with a fault stands for no value. -/
theorem Shape.Flawed.denotes : ∀ {s : Shape} {o : Octets}, s.Proper → s.Flawed o → s.Denotes none o
  | .record fs, _, hs, h => by
    obtain ⟨gap, ms, hgap, hms, hflaw, rfl⟩ := h
    obtain ⟨x, hx⟩ := Fields.exists_tells hs.2 fun m hm _ => (hms m hm).2
    obtain rfl := hx.eq_none hflaw
    exact .inl ⟨gap, ms, hgap, fun m hm => (hms m hm).1, fun m hm => (hms m hm).2.jsonText, hx, rfl⟩

/-! ## Whole texts -/

/-- A whole text is read with the blanks around it. -/
theorem Shape.decode_spaced {s : Shape} (hs : s.Proper) {x : Option s.Value} {t : Spaced} (h : s.Denotes x t.text) :
    s.decode t.octets = x.elim (.error .mismatch) .ok := by
  have hread := Shape.reads hs h t.after t.blanks_after.closes
  have hafter : skipBlanks t.after = [] := by
    have hskip := skipBlanks_past t.blanks_after []
    rwa [List.append_nil] at hskip
  rw [Shape.decode, whole, Spaced.octets, List.append_assoc, s.ignoresBlanks_read _ _ t.blanks_before, hread]
  cases x with
  | none => rfl
  | some v => simp only [outcome, hafter, if_true, Option.elim_some]

end Json

namespace Wire

variable {α : Type} [Wire α]

/-- Every spelling of a value is read as the value, its canonical text is one, and objects with a fault are mismatches. The
names are those of the fields that an object must have and of those that it may leave out. -/
structure ReadsSpellings (α : Type) [Wire α] (required omittable : List String) : Prop where
  required : (shape α).fields.namesOf false = required
  omittable : (shape α).fields.namesOf true = omittable
  canonical : ∀ a : α, (shape α).Denotes (some (toValue a)) (encode a)
  spelled : ∀ (a : α) (t : Spaced), (shape α).Denotes (some (toValue a)) t.text → decode t.octets = .ok a
  flawed : ∀ t : Spaced, (shape α).Flawed t.text → decode (α := α) t.octets = .error .mismatch

theorem readsSpellings {required omittable : List String} (hα : (shape α).Proper)
    (hrequired : (shape α).fields.namesOf false = required) (homittable : (shape α).fields.namesOf true = omittable) :
    ReadsSpellings α required omittable where
  required := hrequired
  omittable := homittable
  canonical a := Shape.denotes_write hα (toValue a)
  spelled a t h := by
    rw [decode, Shape.decode_spaced hα h]
    exact congrArg Except.ok (ofValue_toValue a)
  flawed t h := by
    rw [decode, Shape.decode_spaced hα (h.denotes hα)]
    rfl

end Wire

open Wire

/-- **Every spelling is read.** For every type that travels as a record, each text that stands for a value is read as that
value: an object with the fields in any order and any other members among them, or a list of all fields, with blanks
between the tokens and the same freedom in every part. Fields of a request may be left out where they would be empty. An
object whose members are in order one by one is a mismatch if it has a field twice or lacks one that it must have. -/
theorem every_spelling_read :
    ReadsSpellings Channel ["id", "platform", "target_id", "group"] [] ∧
    ReadsSpellings Event ["name", "currency", "requester", "receiver", "category", "timestamp", "cost_cents"] [] ∧
    ReadsSpellings Notification ["uuid", "title", "message", "channels", "event", "retries"] [] ∧
    ReadsSpellings Request [] ["uuid", "title", "message", "channels", "event"] ∧
    ReadsSpellings FailureView ["id", "uuid", "body", "error"] [] ∧
    ReadsSpellings Email ["recipient", "subject", "body"] [] := by
  refine ⟨?_, ?_, ?_, ?_, ?_, ?_⟩ <;> refine readsSpellings ?_ rfl rfl <;>
    simp [Wire.shape, Shape.Proper, Fields.Proper, Fields.names, Shape.isOptional]

/-- The members of an email with the last field first and a member among them that is none of its fields. -/
def backwards : List (String × Member) :=
  [("body", .bare (quote "body") (quote "c")), ("cc", .bare (quote "cc") (listText [] [.bare (Octets.ofText "null")])),
    ("subject", .bare (quote "subject") (quote "b")), ("recipient", .bare (quote "recipient") (quote "a"))]

theorem every_spelling_read_backwards :
    Wire.decode (Spaced.bare (objectText [] (backwards.map Prod.snd))).octets = .ok (⟨"a", "b", "c"⟩ : Email) ∧
    Wire.decode (α := Email) (Spaced.bare (objectText [] (backwards.tail.map Prod.snd))).octets = .error .mismatch := by
  have hnull : ∀ t ∈ [Spaced.bare (Octets.ofText "null")], JsonText t.text := by
    intro t ht
    rw [List.mem_singleton.mp ht]
    exact .null
  have hcc : JsonText (listText [] [.bare (Octets.ofText "null")]) := .list .nil hnull
  have hbears : ∀ m ∈ backwards, Quotes m.1 m.2.label ∧ (shape Email).fields.Bears m.1 m.2.value.text := by
    intro m hm
    simp only [backwards, List.mem_cons, List.not_mem_nil, or_false] at hm
    rcases hm with rfl | rfl | rfl | rfl
    · exact ⟨quotes_quote _, some "c", "c", rfl, quotes_quote _⟩
    · exact ⟨quotes_quote _, hcc⟩
    · exact ⟨quotes_quote _, some "b", "b", rfl, quotes_quote _⟩
    · exact ⟨quotes_quote _, some "a", "a", rfl, quotes_quote _⟩
  obtain ⟨-, -, -, -, -, hemail⟩ := every_spelling_read
  refine ⟨hemail.spelled _ _ (.inl ⟨[], backwards, .nil, fun m hm => (hbears m hm).1, fun m hm => (hbears m hm).2.jsonText,
    ?_, rfl⟩), hemail.flawed _ ⟨[], backwards.tail, .nil, fun m hm => hbears m (List.mem_of_mem_tail hm),
    .inr ⟨"body", ?_, ?_⟩, rfl⟩⟩
  · refine Fields.tells_some_iff.mpr ⟨.inl ⟨quote "a", rfl, "a", rfl, quotes_quote _⟩, ?_⟩
    refine Fields.tells_some_iff.mpr ⟨.inl ⟨quote "b", rfl, "b", rfl, quotes_quote _⟩, ?_⟩
    exact Fields.tells_some_iff.mpr ⟨.inl ⟨quote "c", rfl, "c", rfl, quotes_quote _⟩, rfl⟩
  · decide
  · decide

end Courier
