import Courier.Json.Skip
import Courier.Proofs.Json.Numbers
import Courier.Proofs.Json.Rows
import Courier.Proofs.Json.Texts

/-!
# Skipping values

`JsonText o` says that a text is one of JSON, after the grammar of the standard: numbers of any size, texts with any
escapes, and lists and objects nested to any depth, with blanks wherever they may stand. Every such text is skipped, up to
its last octet (`JsonText.skips`), so `skip` passes over it and over the blanks before it (`JsonText.skip`).
-/

namespace Courier.Json

/-! ## Numbers -/

/-- At least one digit. -/
def Digits (ds : Octets) : Prop := ds ≠ [] ∧ ∀ b ∈ ds, isDigit b = true

/-- The part of a number before any point; no other digit follows a zero at its front. -/
def WholePart (ds : Octets) : Prop := Digits ds ∧ (ds.head? = some (code '0') → ds = [code '0'])

/-- The part of a number from its point on, if it has one. -/
inductive FractionPart : Octets → Prop
  | none : FractionPart []
  | some {ds : Octets} : Digits ds → FractionPart (code '.' :: ds)

/-- The exponent of a number, if it has one. -/
inductive ExponentPart : Octets → Prop
  | none : ExponentPart []
  | some {b : UInt8} {sign ds : Octets} : isExponentMark b = true → sign = [] ∨ sign = [code '+'] ∨ sign = [code '-'] →
      Digits ds → ExponentPart (b :: (sign ++ ds))

/-- A number as it may be written. -/
inductive NumberText : Octets → Prop
  | positive {ds f e : Octets} : WholePart ds → FractionPart f → ExponentPart e → NumberText (ds ++ (f ++ e))
  | negative {ds f e : Octets} : WholePart ds → FractionPart f → ExponentPart e →
      NumberText (code '-' :: (ds ++ (f ++ e)))

theorem Digits.cons {ds : Octets} (h : Digits ds) : ∃ d t, ds = d :: t ∧ isDigit d = true ∧ ∀ b ∈ t, isDigit b = true := by
  obtain ⟨hne, hall⟩ := h
  cases ds with
  | nil => exact absurd rfl hne
  | cons d t => exact ⟨d, t, rfl, hall d List.mem_cons_self, fun b hb => hall b (List.mem_cons_of_mem _ hb)⟩

/-- A digit is told apart from every octet that is none. -/
theorem beq_of_isDigit {b c : UInt8} (hb : isDigit b = true) (hc : isDigit c = false) : (b == c) = false := by
  refine beq_eq_false_iff_ne.mpr ?_
  rintro rfl
  rw [hb] at hc
  cases hc

theorem skipExponent_append {sign ds : Octets} (hsign : sign = [] ∨ sign = [code '+'] ∨ sign = [code '-'])
    (hds : Digits ds) {rest : Octets} (hrest : Closes rest) : skipExponent (sign ++ ds ++ rest) = .ok ((), rest) := by
  obtain ⟨d, t, rfl, hd, ht⟩ := hds.cons
  have hminus := beq_of_isDigit hd (c := code '-') (by decide)
  have hplus := beq_of_isDigit hd (c := code '+') (by decide)
  have hafter : (exponentSign (sign ++ d :: t ++ rest)).2 = d :: (t ++ rest) := by
    rcases hsign with rfl | rfl | rfl
    · simp only [List.nil_append, List.cons_append, exponentSign, hminus, hplus, Bool.false_eq_true, if_false]
    · rfl
    · rfl
  simp only [skipExponent, hafter, hd, if_true, afterDigits_append ht hrest.endsDigits]

theorem endsDigits_tail {f e rest : Octets} (hf : FractionPart f) (he : ExponentPart e) (hrest : Closes rest) :
    EndsDigits (f ++ (e ++ rest)) := by
  cases hf with
  | some _ => exact (rfl : isDigit (code '.') = false)
  | none =>
    cases he with
    | none => exact hrest.endsDigits
    | @some b sign ds hb hsign hds =>
      simp only [isExponentMark, Bool.or_eq_true, beq_iff_eq] at hb
      rcases hb with rfl | rfl
      · exact (rfl : isDigit (code 'e') = false)
      · exact (rfl : isDigit (code 'E') = false)

theorem skipFraction_append {f e rest : Octets} (hf : FractionPart f) (he : ExponentPart e) (hrest : Closes rest) :
    skipFraction (f ++ (e ++ rest)) = .ok ((), rest) := by
  have hmark : ∀ b, isExponentMark b = true → (b == code '.') = false := by
    intro b hb
    simp only [isExponentMark, Bool.or_eq_true, beq_iff_eq] at hb
    rcases hb with rfl | rfl <;> decide
  cases hf with
  | none =>
    cases he with
    | none =>
      cases rest with
      | nil => rfl
      | cons b rest =>
        have hb : (b == code '.') = false := beq_eq_false_iff_ne.mpr hrest.2.1
        simp only [List.nil_append, skipFraction, hb, hrest.2.2, Bool.false_eq_true, if_false]
    | @some b sign ds hb hsign hds =>
      simp only [List.nil_append, List.cons_append, skipFraction, hmark b hb, hb, Bool.false_eq_true, if_false, if_true]
      exact skipExponent_append hsign hds hrest
  | @some ds hds =>
    have hends := endsDigits_tail .none he hrest
    rw [List.nil_append] at hends
    have hlead := leadingDigits_append hds.2 hends
    have hafter := afterDigits_append hds.2 hends
    simp only [List.cons_append, skipFraction, beq_self_eq_true, if_true, hlead, hds.1, if_false, hafter]
    cases he with
    | none =>
      cases rest with
      | nil => rfl
      | cons b rest => simp only [List.nil_append, hrest.2.2, Bool.false_eq_true, if_false]
    | @some b sign ds hb hsign hds =>
      simp only [List.cons_append, hb, if_true]
      exact skipExponent_append hsign hds hrest

theorem skipUnsigned_append {ds f e rest : Octets} (hds : WholePart ds) (hf : FractionPart f) (he : ExponentPart e)
    (hrest : Closes rest) : skipUnsigned (ds ++ (f ++ e) ++ rest) = .ok ((), rest) := by
  obtain ⟨hdigits, hzero⟩ := hds
  obtain ⟨d, t, rfl, hd, ht⟩ := hdigits.cons
  have hfraction := skipFraction_append hf he hrest
  have hends := endsDigits_tail hf he hrest
  rw [List.append_assoc, List.append_assoc, List.cons_append]
  by_cases hd0 : d = code '0'
  · subst hd0
    have ht0 : t = [] := by simpa using hzero rfl
    subst ht0
    simp only [List.nil_append, skipUnsigned, beq_self_eq_true, if_true]
    cases htail : f ++ (e ++ rest) with
    | nil =>
      rw [htail] at hfraction
      exact hfraction
    | cons c u =>
      rw [htail] at hfraction hends
      have hc : isDigit c = false := hends
      simpa only [hc, Bool.false_eq_true, if_false] using hfraction
  · have hd0' := beq_eq_false_iff_ne.mpr hd0
    simpa only [skipUnsigned, hd0', hd, Bool.false_eq_true, if_false, if_true, afterDigits_append ht hends] using hfraction

theorem NumberText.skips {o : Octets} (h : NumberText o) : Takes skipNumeral o () := by
  intro rest hrest
  cases h with
  | @positive ds f e hds hf he =>
    have hskip := skipUnsigned_append hds hf he hrest
    obtain ⟨d, t, rfl, hd, -⟩ := hds.1.cons
    have hminus := beq_of_isDigit hd (c := code '-') (by decide)
    simp only [List.cons_append, skipNumeral, hminus, Bool.false_eq_true, if_false]
    exact hskip
  | negative hds hf he => exact skipUnsigned_append hds hf he hrest

theorem NumberText.begins {o : Octets} (h : NumberText o) : ∃ b t, o = b :: t ∧ beginsNumeral b = true := by
  cases h with
  | positive hds hf he =>
    obtain ⟨d, t, rfl, hd, -⟩ := hds.1.cons
    exact ⟨d, _, rfl, by rw [beginsNumeral, hd, Bool.or_true]⟩
  | negative hds hf he => exact ⟨code '-', _, rfl, rfl⟩

/-! ## Texts -/

/-- What a piece of a quoted text may look like. -/
inductive PieceText : Octets → Prop
  | plain {b : UInt8} : 0x20 ≤ b → b ≠ code '"' → b ≠ code '\\' → PieceText [b]
  | short {e b : UInt8} : shortEscape e = some b → PieceText [code '\\', e]
  | unicode {ds : Octets} {n : Nat} : HexWord ds n → PieceText (code '\\' :: code 'u' :: ds)

/-- Pieces between quotes, whether or not they stand for a text. -/
def QuotedText (o : Octets) : Prop :=
  ∃ ps : List Octets, (∀ p ∈ ps, PieceText p) ∧ o = code '"' :: (ps.flatten ++ [code '"'])

theorem PieceText.length_pos {p : Octets} (h : PieceText p) : 0 < p.length := by
  cases h <;> exact Nat.succ_pos _

theorem PieceText.skips {p : Octets} (h : PieceText p) (b : UInt8) (n : Bound) (s : Octets) :
    skipPieces (b :: n) (p ++ s) = skipPieces n s := by
  cases h with
  | @plain c hlow hquote hslash =>
    have hq : (c == code '"') = false := beq_eq_false_iff_ne.mpr hquote
    have hs : (c == code '\\') = false := beq_eq_false_iff_ne.mpr hslash
    have hl : ¬ c < 0x20 := UInt8.not_lt.mpr hlow
    simp only [List.singleton_append, skipPieces, hq, hs, hl, Bool.false_eq_true, if_false]
  | short he =>
    simp only [List.cons_append, List.nil_append, skipPieces, he]
    rfl
  | unicode hds =>
    simp only [List.cons_append, skipPieces, hds.append s]
    rfl

theorem skipPieces_append {ps : List Octets} (hps : ∀ p ∈ ps, PieceText p) {n : Bound} (hn : ps.length < n.length)
    (rest : Octets) : skipPieces n (ps.flatten ++ code '"' :: rest) = .ok ((), rest) := by
  induction ps generalizing n with
  | nil =>
    obtain ⟨b, n, rfl⟩ := List.exists_cons_of_length_pos hn
    rfl
  | cons p ps ih =>
    obtain ⟨b, n, rfl⟩ := List.exists_cons_of_length_pos (Nat.zero_lt_of_lt hn)
    rw [List.flatten_cons, List.append_assoc, (hps p List.mem_cons_self).skips]
    exact ih (fun q hq => hps q (List.mem_cons_of_mem _ hq)) (by simpa using hn)

theorem length_le_flatten {ps : List Octets} (hps : ∀ p ∈ ps, PieceText p) : ps.length ≤ ps.flatten.length := by
  induction ps with
  | nil => exact Nat.le_refl _
  | cons p ps ih =>
    have hp := (hps p List.mem_cons_self).length_pos
    have := ih fun q hq => hps q (List.mem_cons_of_mem _ hq)
    rw [List.flatten_cons, List.length_append, List.length_cons]
    omega

/-- A quoted text is its opening quote and what `skipQuoted` takes. -/
theorem QuotedText.begins {o : Octets} (h : QuotedText o) :
    ∃ t, o = code '"' :: t ∧ ∀ rest, skipQuoted (t ++ rest) = .ok ((), rest) := by
  obtain ⟨ps, hps, rfl⟩ := h
  refine ⟨_, rfl, fun rest => ?_⟩
  rw [List.append_assoc, List.singleton_append]
  refine skipPieces_append hps ?_ rest
  have := length_le_flatten hps
  simp only [boundOf, List.length_cons, List.length_append]
  omega

/-! ## Values -/

/-- A text of JSON. -/
inductive JsonText : Octets → Prop
  | null : JsonText (Octets.ofText "null")
  | true : JsonText (Octets.ofText "true")
  | false : JsonText (Octets.ofText "false")
  | number {o : Octets} : NumberText o → JsonText o
  | quoted {o : Octets} : QuotedText o → JsonText o
  | list {gap : Octets} {ts : List Spaced} : Blanks gap → (∀ t ∈ ts, JsonText t.text) → JsonText (listText gap ts)
  | object {gap : Octets} {ms : List Member} : Blanks gap → (∀ m ∈ ms, QuotedText m.label) →
      (∀ m ∈ ms, JsonText m.value.text) → JsonText (objectText gap ms)

theorem ignoresBlanks_skipValue (b : UInt8) (n : Bound) : IgnoresBlanks (skipValue (b :: n)) := by
  rw [skipValue]
  exact ignoresBlanks_next.bind _

/-- A text that is skipped, within every bound that is longer. -/
def Skipped (o : Octets) : Prop := Opens o ∧ ∀ n : Bound, o.length < n.length → Takes (skipValue n) o ()

theorem skipped_number {o : Octets} (h : NumberText o) : Skipped o := by
  have hskip := h.skips
  obtain ⟨b, t, rfl, hb⟩ := h.begins
  have hopens := (opensValue_of_beginsNumeral hb).1
  refine ⟨hopens, fun n hn rest hrest => ?_⟩
  obtain ⟨c, n, rfl⟩ := List.exists_cons_of_length_pos (Nat.zero_lt_of_lt hn)
  have hn' := beq_eq_false_iff_ne.mpr (ne_of_beginsNumeral hb (c := code 'n') (by decide))
  have ht := beq_eq_false_iff_ne.mpr (ne_of_beginsNumeral hb (c := code 't') (by decide))
  have hf := beq_eq_false_iff_ne.mpr (ne_of_beginsNumeral hb (c := code 'f') (by decide))
  rw [List.cons_append, skipValue, bind_of_ok (next_cons hopens.1 _)]
  simp only [hn', ht, hf, hb, Bool.false_eq_true, if_false, if_true]
  exact hskip rest hrest

theorem skipped_quoted {o : Octets} (h : QuotedText o) : Skipped o := by
  obtain ⟨t, rfl, hread⟩ := h.begins
  refine ⟨⟨rfl, by decide⟩, fun n hn rest _ => ?_⟩
  obtain ⟨c, n, rfl⟩ := List.exists_cons_of_length_pos (Nat.zero_lt_of_lt hn)
  rw [List.cons_append, skipValue, bind_of_ok (next_cons rfl _), if_neg (by decide), if_neg (by decide),
    if_neg (by decide), if_neg (by decide), if_pos (beq_self_eq_true _), bind_of_ok (advance_cons _ _)]
  exact hread rest

theorem skipped_list {gap : Octets} {ts : List Spaced} (hgap : Blanks gap) (h : ∀ t ∈ ts, Skipped t.text) :
    Skipped (listText gap ts) := by
  refine ⟨⟨rfl, by decide⟩, fun n hn rest _ => ?_⟩
  obtain ⟨b, n, rfl⟩ := List.exists_cons_of_length_pos (Nat.zero_lt_of_lt hn)
  obtain ⟨hcount, hlength⟩ := bound_of_row hn
  have hitems : List.Forall₂ (fun x t => Opens t.text ∧ Reads (skipValue n) t.text x) ((ts.map fun _ => ()).map some) ts := by
    rw [List.forall₂_map_left_iff, List.forall₂_map_left_iff, List.forall₂_same]
    intro t ht
    have hle := hlength t ht
    simp only [Spaced.octets, List.length_append] at hle
    exact ⟨(h t ht).1, (h t ht).2 n (by omega)⟩
  have helements := elements_row hitems hcount true hgap [] rest
  rw [mapM_id_some] at helements
  rw [row_append, skipValue, bind_of_ok (next_cons rfl _), if_neg (by decide), if_neg (by decide), if_neg (by decide),
    if_neg (by decide), if_neg (by decide), if_pos (beq_self_eq_true _), bind_of_ok (advance_cons _ _)]
  refine (bind_of_ok (map_of_ok helements _) _).trans ?_
  exact expect_cons rfl _

/-- Skips a member of an object within a bound. -/
def skipMember (n : Bound) : Unit → Reader Unit := fun _ => do advance; skipQuoted; expect (code ':'); skipValue n

theorem takes_skipMember {m : Member} (hlabel : QuotedText m.label) {b : UInt8} {n : Bound}
    (hvalue : Takes (skipValue (b :: n)) m.value.text ()) : Takes (skipMember (b :: n) ()) m.spaced.text () := by
  intro rest hrest
  obtain ⟨t, ht, hread⟩ := hlabel.begins
  unfold skipMember
  rw [Member.spaced, ht, List.append_assoc, List.append_assoc, List.cons_append, bind_of_ok (advance_cons _ _),
    bind_of_ok (hread _), (ignoresBlanks_expect _).bind _ _ _ m.blanks_gap, List.cons_append,
    bind_of_ok (expect_cons rfl _), List.append_assoc, ignoresBlanks_skipValue b n _ _ m.value.blanks_before]
  exact hvalue rest hrest

theorem feeds_skipMember {b : UInt8} {n : Bound} {ms : List Member}
    (h : ∀ m ∈ ms, QuotedText m.label ∧ Takes (skipValue (b :: n)) m.value.text ()) :
    Feeds (skipMember (b :: n)) () (ms.map Member.spaced) (some ()) := by
  induction ms with
  | nil => exact .done ()
  | cons m ms ih =>
    obtain ⟨hlabel, hvalue⟩ := h m List.mem_cons_self
    obtain ⟨t, ht, -⟩ := hlabel.begins
    exact .more ⟨_, congrArg (· ++ _) ht⟩ (takes_skipMember hlabel hvalue) (ih fun l hl => h l (List.mem_cons_of_mem _ hl))

theorem skipped_object {gap : Octets} {ms : List Member} (hgap : Blanks gap) (hlabels : ∀ m ∈ ms, QuotedText m.label)
    (h : ∀ m ∈ ms, Skipped m.value.text) : Skipped (objectText gap ms) := by
  refine ⟨⟨rfl, by decide⟩, fun n hn rest _ => ?_⟩
  obtain ⟨b, n, rfl⟩ := List.exists_cons_of_length_pos (Nat.zero_lt_of_lt hn)
  obtain ⟨hcount, hlength⟩ := bound_of_row hn
  obtain ⟨c, n, rfl⟩ := List.exists_cons_of_length_pos (Nat.zero_lt_of_lt hcount)
  have hms : ∀ m ∈ ms, QuotedText m.label ∧ Takes (skipValue (c :: n)) m.value.text () := by
    intro m hm
    have hle := hlength m.spaced (List.mem_map_of_mem hm)
    simp only [Spaced.octets, Member.spaced, List.length_append, List.length_cons] at hle
    exact ⟨hlabels m hm, (h m hm).2 (c :: n) (by simp only [List.length_cons]; omega)⟩
  have hmembers := members_row (feeds_skipMember hms) hcount true hgap rest
  rw [row_append, skipValue, bind_of_ok (next_cons rfl _), if_neg (by decide), if_neg (by decide), if_neg (by decide),
    if_neg (by decide), if_neg (by decide), if_neg (by decide), if_pos (beq_self_eq_true _),
    bind_of_ok (advance_cons _ _)]
  refine (bind_of_ok (r := members (skipMember (c :: n)) (c :: n) true ()) hmembers _).trans ?_
  exact expect_cons rfl _

theorem skipped_literal {ks : Octets} {b : UInt8} (hb : b = code 'n' ∧ ks = [code 'u', code 'l', code 'l'] ∨
    b = code 't' ∧ ks = [code 'r', code 'u', code 'e'] ∨
    b = code 'f' ∧ ks = [code 'a', code 'l', code 's', code 'e']) : Skipped (b :: ks) := by
  have hliteral := literal_append ks
  rcases hb with ⟨rfl, rfl⟩ | ⟨rfl, rfl⟩ | ⟨rfl, rfl⟩
  all_goals
    refine ⟨⟨rfl, by decide⟩, fun n hn rest _ => ?_⟩
    obtain ⟨c, n, rfl⟩ := List.exists_cons_of_length_pos (Nat.zero_lt_of_lt hn)
    rw [List.cons_append, skipValue, bind_of_ok (next_cons rfl _)]
    exact hliteral rest

/-- **Every text of JSON is skipped**, within every bound that is longer. -/
theorem JsonText.skips {o : Octets} (h : JsonText o) : Skipped o := by
  induction h with
  | null => exact skipped_literal (.inl ⟨rfl, rfl⟩)
  | true => exact skipped_literal (.inr (.inl ⟨rfl, rfl⟩))
  | false => exact skipped_literal (.inr (.inr ⟨rfl, rfl⟩))
  | number hnumber => exact skipped_number hnumber
  | quoted hquoted => exact skipped_quoted hquoted
  | list hgap _ ih => exact skipped_list hgap ih
  | object hgap hlabels _ ih => exact skipped_object hgap hlabels ih

/-- A text of JSON is passed over with the blanks before it. -/
theorem JsonText.skip {o : Octets} (h : JsonText o) {w : Octets} (hw : Blanks w) {rest : Octets} (hrest : Closes rest) :
    skip (w ++ (o ++ rest)) = .ok ((), rest) := by
  have hbound : o.length < (boundOf (w ++ (o ++ rest))).length := by
    simp only [boundOf, List.length_cons, List.length_append]
    omega
  have hskip := h.skips.2 _ hbound rest hrest
  exact (ignoresBlanks_skipValue _ _ w _ hw).trans hskip

end Courier.Json
