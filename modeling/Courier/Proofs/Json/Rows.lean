import Courier.Proofs.Json.Taking
import Mathlib.Data.List.Forall2

/-!
# Rows of texts

The elements of a list and the members of an object are rows of texts with blanks around them (`Spaced`) and commas
between them (`row`). What comes of reading a row is settled text by text: the elements are brought together unless one of
them is a mismatch (`elements_row`), and the members bring an accumulator to its last value unless one of them is a
mismatch (`members_row`). Both loops run from what is left of a row (`rowFrom`), whose first text stands without a comma.
-/

namespace Courier.Json

variable {α σ : Type}

/-! ## Texts with blanks around them -/

/-- A text with blanks around it. -/
structure Spaced where
  before : Octets
  text : Octets
  after : Octets
  blanks_before : Blanks before
  blanks_after : Blanks after

/-- A text without blanks around it. -/
def Spaced.bare (o : Octets) : Spaced := ⟨[], o, [], .nil, .nil⟩

def Spaced.octets (t : Spaced) : Octets := t.before ++ t.text ++ t.after

/-- What stands in an object: a label, a colon and a value, with blanks around each. -/
structure Member where
  before : Octets
  label : Octets
  gap : Octets
  value : Spaced
  blanks_before : Blanks before
  blanks_gap : Blanks gap

/-- A member without blanks in it. -/
def Member.bare (label o : Octets) : Member := ⟨[], label, [], .bare o, .nil, .nil⟩

/-- A member as one text of a row. -/
def Member.spaced (m : Member) : Spaced where
  before := m.before
  text := m.label ++ (m.gap ++ code ':' :: (m.value.before ++ m.value.text))
  after := m.value.after
  blanks_before := m.blanks_before
  blanks_after := m.value.blanks_after

/-- A row of texts between two octets. The gap is all that stands between these when there are no texts. -/
def row (opening closing : UInt8) (gap : Octets) (ts : List Spaced) : Octets :=
  opening :: (gap ++ commaJoined (ts.map Spaced.octets) ++ [closing])

/-- The text of a list. -/
abbrev listText (gap : Octets) (ts : List Spaced) : Octets := row (code '[') (code ']') gap ts

/-- The text of an object. -/
abbrev objectText (gap : Octets) (ms : List Member) : Octets := row (code '{') (code '}') gap (ms.map Member.spaced)

theorem Spaced.octets_bare (o : Octets) : (bare o).octets = o := List.append_nil o

theorem Member.spaced_bare (label o : Octets) : (bare label o).spaced = .bare (label ++ code ':' :: o) := rfl

/-! ## What is left of a row -/

/-- What is left of a row of texts; only the first one of the row stands without a comma. -/
def rowFrom : Bool → List Octets → Octets
  | _, [] => []
  | true, o :: os => o ++ rowFrom false os
  | false, o :: os => code ',' :: (o ++ rowFrom false os)

theorem rowFrom_true (os : List Octets) : rowFrom true os = commaJoined os := by
  cases os with
  | nil => rfl
  | cons o os =>
    induction os generalizing o with
    | nil => simp [rowFrom, commaJoined]
    | cons p os ih => rw [commaJoined, ← ih p, rowFrom, rowFrom, rowFrom]; simp

/-- A row has no fewer octets than texts, but for the one text that has no comma. -/
theorem length_le_rowFrom (first : Bool) (os : List Octets) : os.length ≤ (rowFrom first os).length + 1 := by
  have hmore : ∀ os : List Octets, os.length ≤ (rowFrom false os).length := by
    intro os
    induction os with
    | nil => exact Nat.le_refl _
    | cons o os ih =>
      rw [rowFrom, List.length_cons, List.length_cons, List.length_append]
      omega
  cases os with
  | nil => exact Nat.zero_le _
  | cons o os =>
    have := hmore os
    cases first <;> simp only [rowFrom, List.length_cons, List.length_append] <;> omega

/-- A text in a row is no longer than the row. -/
theorem length_le_of_mem_row (first : Bool) {o : Octets} {os : List Octets} (ho : o ∈ os) :
    o.length ≤ (rowFrom first os).length := by
  induction os generalizing first with
  | nil => cases ho
  | cons p os ih =>
    rcases List.mem_cons.mp ho with rfl | ho
    · cases first <;> simp only [rowFrom, List.length_cons, List.length_append] <;> omega
    · have := ih false ho
      cases first <;> simp only [rowFrom, List.length_cons, List.length_append] <;> omega

/-- A row and the octet that ends it bound the texts in it. -/
theorem length_lt_boundOf_row (gap : Octets) (first : Bool) (ts : List Spaced) (b : UInt8) (rest : Octets) :
    ts.length < (boundOf (gap ++ (rowFrom first (ts.map Spaced.octets) ++ b :: rest))).length := by
  have := length_le_rowFrom first (ts.map Spaced.octets)
  rw [List.length_map] at this
  simp only [boundOf, List.length_cons, List.length_append]
  omega

theorem Closes.after_row {s : Octets} (hs : Closes s) (os : List Octets) : Closes (rowFrom false os ++ s) := by
  cases os with
  | nil => exact hs
  | cons o os => exact closes_comma _

theorem row_append (opening closing : UInt8) (gap : Octets) (ts : List Spaced) (rest : Octets) :
    row opening closing gap ts ++ rest =
      opening :: (gap ++ (rowFrom true (ts.map Spaced.octets) ++ closing :: rest)) := by
  simp [row, rowFrom_true]

/-- A row of texts without blanks. -/
theorem row_bare (opening closing : UInt8) (os : List Octets) :
    row opening closing [] (os.map Spaced.bare) = opening :: commaJoined os ++ [closing] := by
  have hoctets : Spaced.octets ∘ Spaced.bare = id := funext Spaced.octets_bare
  rw [row, List.map_map, hoctets, List.map_id, List.nil_append, List.cons_append]

/-- A bound for a row is a bound for every text in it, and for their number. -/
theorem bound_of_row {opening closing : UInt8} {gap : Octets} {ts : List Spaced} {b : UInt8} {n : Bound}
    (hn : (row opening closing gap ts).length < (b :: n).length) :
    ts.length < n.length ∧ ∀ t ∈ ts, t.octets.length < n.length := by
  have hcount := length_le_rowFrom true (ts.map Spaced.octets)
  simp only [row, ← rowFrom_true, List.length_cons, List.length_append, List.length_nil] at hn
  rw [List.length_map] at hcount
  refine ⟨by omega, fun t ht => ?_⟩
  have := length_le_of_mem_row true (List.mem_map_of_mem (f := Spaced.octets) ht)
  omega

/-! ## Lists -/

theorem mapM_id_some (as : List α) : (as.map some).mapM id = some as := by
  induction as with
  | nil => rfl
  | cons a as ih => simp [List.mapM_cons, ih]

theorem hasElement_end (first : Bool) {w : Octets} (hw : Blanks w) (s : Octets) :
    hasElement first (w ++ (rowFrom first [] ++ code ']' :: s)) = .ok (false, code ']' :: s) := by
  rw [ignoresBlanks_hasElement first w _ hw, show rowFrom first [] = [] by cases first <;> rfl, List.nil_append]
  unfold hasElement
  rw [bind_of_ok (next_cons rfl s)]
  rfl

/-- Another element follows when a row has another text. -/
theorem hasElement_row {t : Spaced} (ht : Opens t.text) (first : Bool) {w : Octets} (hw : Blanks w) (os : List Octets)
    (s : Octets) :
    hasElement first (w ++ (rowFrom first (t.octets :: os) ++ s)) =
      .ok (true, t.text ++ (t.after ++ (rowFrom false os ++ s))) := by
  obtain ⟨before, text, after, hbefore, hafter⟩ := t
  cases text with
  | nil => exact ht.elim
  | cons b text =>
    have hb : (b == code ']') = false := beq_eq_false_iff_ne.mpr ht.2
    have hnext : ∀ u, next (before ++ b :: u) = .ok (b, b :: u) := by
      intro u
      rw [ignoresBlanks_next before _ hbefore, next_cons ht.1]
    rw [ignoresBlanks_hasElement first w _ hw]
    unfold hasElement
    cases first with
    | true =>
      simp only [rowFrom, Spaced.octets, List.append_assoc, List.cons_append]
      rw [bind_of_ok (hnext _), hb]
      rfl
    | false =>
      simp only [rowFrom, Spaced.octets, List.append_assoc, List.cons_append]
      rw [bind_of_ok (next_cons rfl _), if_neg (by decide), if_neg (by decide), if_pos (by decide),
        bind_of_ok (advance_cons _ _), bind_of_ok (hnext _), hb]
      rfl

/-- The elements of a list are read text by text. -/
theorem elements_row {item : Reader α} {xs : List (Option α)} {ts : List Spaced}
    (h : List.Forall₂ (fun x t => Opens t.text ∧ Reads item t.text x) xs ts) {n : Bound} (hn : ts.length < n.length)
    (first : Bool) {w : Octets} (hw : Blanks w) (done : List α) (rest : Octets) :
    elements item n first done (w ++ (rowFrom first (ts.map Spaced.octets) ++ code ']' :: rest)) =
      outcome ((xs.mapM id).map (done.reverse ++ ·)) (code ']' :: rest) := by
  induction h generalizing n first w done with
  | nil =>
    obtain ⟨b, n, rfl⟩ := List.exists_cons_of_length_pos hn
    rw [elements, List.map_nil, bind_of_ok (hasElement_end first hw rest)]
    simp only [List.mapM_nil, Option.pure_def, Option.map_some, List.append_nil]
    rfl
  | @cons x t xs ts hx hmore ih =>
    obtain ⟨b, n, rfl⟩ := List.exists_cons_of_length_pos (Nat.zero_lt_of_lt hn)
    have hcloses : Closes (t.after ++ (rowFrom false (ts.map Spaced.octets) ++ code ']' :: rest)) :=
      ((closes_bracket rest).after_row _).after_blanks t.blanks_after
    have hloop : ∀ a, x = some a → elements item n false (a :: done)
        (t.after ++ (rowFrom false (ts.map Spaced.octets) ++ code ']' :: rest)) =
          outcome ((xs.mapM id).map ((a :: done).reverse ++ ·)) (code ']' :: rest) :=
      fun a _ => ih (by simpa using hn) false t.blanks_after (a :: done)
    rw [elements, List.map_cons, bind_of_ok (hasElement_row hx.1 first hw _ _), if_pos rfl,
      bind_of_outcome (hx.2 _ hcloses) hloop]
    congr 1
    cases x with
    | none => rfl
    | some a => cases hxs : xs.mapM id <;> simp [List.mapM_cons, hxs]

theorem allElements_row {item : Reader α} {xs : List (Option α)} {ts : List Spaced}
    (h : List.Forall₂ (fun x t => Opens t.text ∧ Reads item t.text x) xs ts) {gap : Octets} (hgap : Blanks gap)
    (rest : Octets) :
    allElements item (gap ++ (rowFrom true (ts.map Spaced.octets) ++ code ']' :: rest)) =
      outcome (xs.mapM id) (code ']' :: rest) := by
  refine (elements_row h (length_lt_boundOf_row gap true ts _ rest) true hgap [] rest).trans ?_
  cases xs.mapM id <;> rfl

/-! ## Objects -/

/-- A text that begins with a quote. -/
def BeginsQuoted (o : Octets) : Prop := ∃ t, o = code '"' :: t

theorem hasMember_end (first : Bool) {w : Octets} (hw : Blanks w) (s : Octets) :
    hasMember first (w ++ (rowFrom first [] ++ code '}' :: s)) = .ok (false, code '}' :: s) := by
  rw [ignoresBlanks_hasMember first w _ hw, show rowFrom first [] = [] by cases first <;> rfl, List.nil_append]
  unfold hasMember
  rw [bind_of_ok (next_cons rfl s)]
  rfl

/-- Another member follows when a row has another text. -/
theorem hasMember_row {t : Spaced} (ht : BeginsQuoted t.text) (first : Bool) {w : Octets} (hw : Blanks w)
    (os : List Octets) (s : Octets) :
    hasMember first (w ++ (rowFrom first (t.octets :: os) ++ s)) =
      .ok (true, t.text ++ (t.after ++ (rowFrom false os ++ s))) := by
  obtain ⟨before, text, after, hbefore, hafter⟩ := t
  obtain ⟨text, rfl⟩ := ht
  have hnext : ∀ u, next (before ++ code '"' :: u) = .ok (code '"', code '"' :: u) := by
    intro u
    rw [ignoresBlanks_next before _ hbefore, next_cons rfl]
  rw [ignoresBlanks_hasMember first w _ hw]
  unfold hasMember
  cases first with
  | true =>
    simp only [rowFrom, Spaced.octets, List.append_assoc, List.cons_append]
    rw [bind_of_ok (hnext _)]
    rfl
  | false =>
    simp only [rowFrom, Spaced.octets, List.append_assoc, List.cons_append]
    rw [bind_of_ok (next_cons rfl _), if_neg (by decide), if_neg (by decide), if_pos (by decide),
      bind_of_ok (advance_cons _ _), bind_of_ok (hnext _)]
    rfl

/-- The members of an object, each beginning with a quote, bring an accumulator to its last value, unless one of them is a
mismatch. -/
inductive Feeds (member : σ → Reader σ) : σ → List Spaced → Option σ → Prop
  | done (acc : σ) : Feeds member acc [] (some acc)
  | stop {acc : σ} {t : Spaced} {ts : List Spaced} :
      BeginsQuoted t.text → Reads (member acc) t.text none → Feeds member acc (t :: ts) none
  | more {acc mid : σ} {t : Spaced} {ts : List Spaced} {x : Option σ} :
      BeginsQuoted t.text → Takes (member acc) t.text mid → Feeds member mid ts x → Feeds member acc (t :: ts) x

/-- The members of an object are read text by text. -/
theorem members_row {member : σ → Reader σ} {acc : σ} {ts : List Spaced} {x : Option σ} (h : Feeds member acc ts x)
    {n : Bound} (hn : ts.length < n.length) (first : Bool) {w : Octets} (hw : Blanks w) (rest : Octets) :
    members member n first acc (w ++ (rowFrom first (ts.map Spaced.octets) ++ code '}' :: rest)) =
      outcome x (code '}' :: rest) := by
  have hcloses : ∀ (t : Spaced) (ts : List Spaced),
      Closes (t.after ++ (rowFrom false (ts.map Spaced.octets) ++ code '}' :: rest)) :=
    fun t ts => ((closes_brace rest).after_row _).after_blanks t.blanks_after
  induction h generalizing n first w with
  | done acc =>
    obtain ⟨b, n, rfl⟩ := List.exists_cons_of_length_pos hn
    rw [members, List.map_nil, bind_of_ok (hasMember_end first hw rest)]
    rfl
  | @stop acc t ts hquote hread =>
    obtain ⟨b, n, rfl⟩ := List.exists_cons_of_length_pos (Nat.zero_lt_of_lt hn)
    rw [members, List.map_cons, bind_of_ok (hasMember_row hquote first hw _ _), if_pos rfl]
    exact bind_of_error (hread _ (hcloses t ts)) _
  | @more acc mid t ts x hquote htake _ ih =>
    obtain ⟨b, n, rfl⟩ := List.exists_cons_of_length_pos (Nat.zero_lt_of_lt hn)
    rw [members, List.map_cons, bind_of_ok (hasMember_row hquote first hw _ _), if_pos rfl,
      bind_of_ok (htake _ (hcloses t ts))]
    exact ih (by simpa using hn) false t.blanks_after

theorem allMembers_row {member : σ → Reader σ} {acc : σ} {ts : List Spaced} {x : Option σ} (h : Feeds member acc ts x)
    {gap : Octets} (hgap : Blanks gap) (rest : Octets) :
    allMembers member acc (gap ++ (rowFrom true (ts.map Spaced.octets) ++ code '}' :: rest)) =
      outcome x (code '}' :: rest) :=
  members_row h (length_lt_boundOf_row gap true ts _ rest) true hgap rest

end Courier.Json
