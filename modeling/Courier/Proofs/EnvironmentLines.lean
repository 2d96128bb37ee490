import Courier.EnvironmentFile
import Courier.Proofs.Blanks
import Mathlib

/-!
# Environment files of plain lines

A file of lines `NAME=value` whose values mean themselves (`Environment.Writes`) is read line by line: rows are cut at
line feeds (`rowsFrom_append`), none of them opens a quote or a comment (`beforeComment_of_plain`), and each one is the
pair that it writes (`ofTrimmed?_lineOf`). So a variable has the text that the environment gives it, or else the first
one that the file does (`lookup_withFile`).
-/

namespace Courier.Environment

/-! ## Plain lines -/

/-- A character of a value that means itself: no blank, no quote, no backslash and no dollar sign. -/
def isPlainChar (c : Char) : Bool := !Text.isBlankChar c && !(['"', '\'', '\\', '$'].contains c)

/-- A name, and a value that means itself. A number sign in front would make it a comment. -/
structure IsPlain (pair : String × String) : Prop where
  begins : (pair.1.toList.head?.any fun c => c.isAlpha || c == '_') = true
  goesOn : ∀ c ∈ pair.1.toList, isNameChar c = true
  value : ∀ c ∈ pair.2.toList, isPlainChar c = true
  noComment : pair.2.toList.head? ≠ some '#'

instance : DecidablePred IsPlain := fun pair =>
  decidable_of_iff ((pair.1.toList.head?.any fun c => c.isAlpha || c == '_') = true ∧
      pair.1.toList.all isNameChar = true ∧ pair.2.toList.all isPlainChar = true ∧ pair.2.toList.head? ≠ some '#')
    ⟨fun ⟨hb, hg, hv, hn⟩ => ⟨hb, List.all_eq_true.mp hg, List.all_eq_true.mp hv, hn⟩,
      fun ⟨hb, hg, hv, hn⟩ => ⟨hb, List.all_eq_true.mpr hg, List.all_eq_true.mpr hv, hn⟩⟩

/-- The characters of a line. -/
def lineOf (pair : String × String) : List Char := pair.1.toList ++ '=' :: pair.2.toList

/-- The two ends of a line. -/
def lineEnds : List (List Char) := [['\n'], ['\r', '\n']]

/-- A text consists of the lines of some pairs, each with its end, which the last one may lack. -/
inductive Writes : List Char → List (String × String) → Prop
  | nil : Writes [] []
  | last (pair : String × String) : Writes (lineOf pair) [pair]
  | cons (pair : String × String) {e cs : List Char} {pairs : List (String × String)} (he : e ∈ lineEnds) :
      Writes cs pairs → Writes (lineOf pair ++ e ++ cs) (pair :: pairs)

/-! ## Characters -/

/-- A character of a plain line: it is no blank, and at a plain place it means nothing. -/
def IsLineChar (c : Char) : Prop := Text.isBlankChar c = false ∧ Place.plain.next c = .plain

theorem isLineChar_of_isPlainChar {c : Char} (h : isPlainChar c = true) : IsLineChar c := by
  simp only [isPlainChar, Bool.and_eq_true, Bool.not_eq_true', List.contains_eq_mem, decide_eq_false_iff_not,
    List.mem_cons, List.not_mem_nil, or_false, not_or] at h
  obtain ⟨hblank, hdouble, hsingle, hslash, -⟩ := h
  refine ⟨hblank, ?_⟩
  simp [Place.next, hblank, hdouble, hsingle, hslash]

theorem isPlainChar_of_isNameChar {c : Char} (h : isNameChar c = true) : isPlainChar c = true := by
  have hrange : ∀ k < 128, isNameChar (Char.ofNat k) = true → isPlainChar (Char.ofNat k) = true := by decide
  have hlt : c.toNat < 128 := by
    simp only [isNameChar, Char.isAlphanum, Char.isAlpha, Char.isUpper, Char.isLower, Char.isDigit, Bool.or_eq_true,
      Bool.and_eq_true, decide_eq_true_eq, beq_iff_eq, UInt32.le_iff_toNat_le] at h
    rcases h with ((((h | h) | h) | rfl) | rfl)
    · exact Nat.lt_of_le_of_lt h.2 (by decide)
    · exact Nat.lt_of_le_of_lt h.2 (by decide)
    · exact Nat.lt_of_le_of_lt h.2 (by decide)
    · decide
    · decide
  have hchar := hrange c.toNat hlt
  rw [Char.ofNat_toNat] at hchar
  exact hchar h

theorem IsPlain.isLineChar {pair : String × String} (h : IsPlain pair) {c : Char} (hc : c ∈ lineOf pair) :
    IsLineChar c := by
  rcases List.mem_append.mp hc with hc | hc
  · exact isLineChar_of_isPlainChar (isPlainChar_of_isNameChar (h.goesOn c hc))
  · rcases List.mem_cons.mp hc with rfl | hc
    · exact ⟨by decide, by decide⟩
    · exact isLineChar_of_isPlainChar (h.value c hc)

theorem IsLineChar.ne_feed {c : Char} (h : IsLineChar c) : c ≠ '\n' := by
  rintro rfl
  exact absurd h.1 (by decide)

/-! ## Rows and lines -/

theorem rowsFrom_append {cs : List Char} (h : '\n' ∉ cs) (done rest : List Char) :
    rowsFrom done (cs ++ '\n' :: rest) = (done.reverse ++ cs ++ ['\n']) :: rowsFrom [] rest := by
  induction cs generalizing done with
  | nil => simp [rowsFrom]
  | cons c cs ih =>
    rw [List.mem_cons, not_or] at h
    obtain ⟨hc, hcs⟩ := h
    rw [List.cons_append, rowsFrom, if_neg (Ne.symm hc), ih hcs]
    simp

theorem rowsFrom_of_not_mem {cs : List Char} (h : '\n' ∉ cs) (done : List Char) (hne : done ++ cs ≠ []) :
    rowsFrom done cs = [done.reverse ++ cs] := by
  induction cs generalizing done with
  | nil =>
    have hdone : done.isEmpty = false := by simpa using hne
    simp [rowsFrom, hdone]
  | cons c cs ih =>
    rw [List.mem_cons, not_or] at h
    obtain ⟨hc, hcs⟩ := h
    rw [rowsFrom, if_neg (Ne.symm hc), ih hcs (c :: done) (by simp)]
    simp

/-- A row without special characters holds no comment and does not go on. -/
theorem beforeComment_of_plain {row : List Char} (h : ∀ c ∈ row, Place.plain.next c = .plain) :
    beforeComment .plain row = (row, .plain) := by
  induction row with
  | nil => rfl
  | cons c row ih =>
    have hplace : ¬ (Place.plain = .blank ∧ c = '#') := fun h => nomatch h.1
    rw [beforeComment, if_neg hplace, h c List.mem_cons_self, ih fun d hd => h d (List.mem_cons_of_mem _ hd)]

section Lines

variable {pair : String × String}

theorem IsPlain.lineOf_cons (h : IsPlain pair) :
    ∃ c cs, lineOf pair = c :: cs ∧ (c.isAlpha || c == '_') = true := by
  have hbegins := h.begins
  cases hname : pair.1.toList with
  | nil =>
    rw [hname] at hbegins
    cases hbegins
  | cons c cs =>
    rw [hname] at hbegins
    exact ⟨c, cs ++ '=' :: pair.2.toList, by rw [lineOf, hname, List.cons_append], hbegins⟩

/-- The row of a plain line is a line. -/
theorem IsPlain.linesFrom_row (h : IsPlain pair) {e : List Char} (he : ∀ c ∈ e, Place.plain.next c = .plain)
    (rows : List (List Char)) :
    linesFrom .plain [] ((lineOf pair ++ e) :: rows) = (lineOf pair ++ e) :: linesFrom .plain [] rows := by
  have hcomment : beforeComment .plain (lineOf pair ++ e) = (lineOf pair ++ e, .plain) := by
    refine beforeComment_of_plain fun c hc => ?_
    rcases List.mem_append.mp hc with hc | hc
    · exact (h.isLineChar hc).2
    · exact he c hc
  have hhead : (Text.dropBlankStart (lineOf pair ++ e)).head? ≠ some '#' := by
    obtain ⟨c, cs, hcs, hc⟩ := h.lineOf_cons
    have hblank : Text.isBlankChar c = false := (h.isLineChar (by rw [hcs]; exact List.mem_cons_self)).1
    rw [hcs, List.cons_append, Text.dropBlankStart, List.dropWhile_cons_of_neg (by simp [hblank]), List.head?_cons]
    rintro ⟨⟩
    exact absurd hc (by decide)
  rw [linesFrom, if_neg fun h => hhead h.2, hcomment]
  simp

/-- Ends of lines are trimmed away. -/
theorem IsPlain.trimChars_row (h : IsPlain pair) {e : List Char} (he : e.all Text.isBlankChar = true) :
    Text.trimChars (lineOf pair ++ e) = lineOf pair := by
  have htrim : Text.trimChars ([] ++ lineOf pair ++ e) = Text.trimChars (lineOf pair) :=
    Text.trimChars_append rfl he (lineOf pair)
  rw [List.nil_append] at htrim
  rw [htrim, Text.trimChars_eq_self fun c hc => (h.isLineChar hc).1]

end Lines

/-- The lines of a file of plain lines, trimmed. -/
theorem Writes.lines {cs : List Char} {pairs : List (String × String)} (h : Writes cs pairs)
    (hplain : ∀ pair ∈ pairs, IsPlain pair) :
    (linesFrom .plain [] (rowsFrom [] cs)).map Text.trimChars = pairs.map lineOf := by
  have hfeed : ∀ pair, IsPlain pair → '\n' ∉ lineOf pair := fun pair hp hmem => (hp.isLineChar hmem).ne_feed rfl
  induction h with
  | nil => rfl
  | last pair =>
    have hp := hplain pair List.mem_cons_self
    obtain ⟨c, cs, hcs, -⟩ := hp.lineOf_cons
    have hrow := hp.linesFrom_row (e := []) nofun []
    have htrim := hp.trimChars_row (e := []) rfl
    rw [List.append_nil] at hrow htrim
    rw [rowsFrom_of_not_mem (hfeed pair hp) [] (by simp [hcs]), List.reverse_nil, List.nil_append, hrow, List.map_cons,
      htrim]
    rfl
  | @cons pair e cs pairs he _ ih =>
    have hp := hplain pair List.mem_cons_self
    have hmore := ih fun q hq => hplain q (List.mem_cons_of_mem _ hq)
    have hends : ∃ f, e = f ++ ['\n'] ∧ '\n' ∉ f ∧ e.all (fun c => decide (Place.plain.next c = .plain)) = true ∧
        e.all Text.isBlankChar = true := by
      rcases List.mem_pair.mp he with rfl | rfl
      · exact ⟨[], rfl, by decide, by decide, by decide⟩
      · exact ⟨['\r'], rfl, by decide, by decide, by decide⟩
    obtain ⟨f, rfl, hf, hall, hblank⟩ := hends
    have hnext : ∀ c ∈ f ++ ['\n'], Place.plain.next c = .plain :=
      fun c hc => of_decide_eq_true (List.all_eq_true.mp hall c hc)
    have hrow : '\n' ∉ lineOf pair ++ f := fun hmem => (List.mem_append.mp hmem).elim (hfeed pair hp) hf
    have htext : lineOf pair ++ (f ++ ['\n']) ++ cs = (lineOf pair ++ f) ++ '\n' :: cs := by simp
    rw [htext, rowsFrom_append hrow, List.reverse_nil, List.nil_append, List.append_assoc, hp.linesFrom_row hnext,
      List.map_cons, List.map_cons, hp.trimChars_row hblank, hmore]

/-! ## Values -/

/-- Plain characters are the value that they spell. -/
theorem foldlM_next?_of_plain (env : Environment) {cs : List Char} (h : ∀ c ∈ cs, isPlainChar c = true)
    (done : List Char) :
    cs.foldlM (Draft.next? env) ⟨done, false, .text⟩ = some ⟨cs.reverse ++ done, false, .text⟩ := by
  induction cs generalizing done with
  | nil => rfl
  | cons c cs ih =>
    have hstep : Draft.next? env ⟨done, false, .text⟩ c = some ⟨c :: done, false, .text⟩ := by
      have hc := h c List.mem_cons_self
      have hspace : c ≠ ' ' ∧ c ≠ '\t' :=
        ⟨fun he => absurd hc (by rw [he]; decide), fun he => absurd hc (by rw [he]; decide)⟩
      simp only [isPlainChar, Bool.and_eq_true, Bool.not_eq_true', List.contains_eq_mem, decide_eq_false_iff_not,
        List.mem_cons, List.not_mem_nil, or_false, not_or] at hc
      simp [Draft.next?, Draft.ofText, Draft.push, hc, hspace]
    rw [List.foldlM_cons, hstep]
    show cs.foldlM (Draft.next? env) ⟨c :: done, false, .text⟩ = _
    rw [ih fun d hd => h d (List.mem_cons_of_mem _ hd)]
    simp

section Pairs

variable {pair : String × String}

theorem IsPlain.value?_eq (h : IsPlain pair) (env : Environment) : value? env pair.2.toList = some pair.2 := by
  have hdrop : Text.dropBlankStart pair.2.toList = pair.2.toList := by
    cases hcs : pair.2.toList with
    | nil => rfl
    | cons c cs =>
      have hc : isPlainChar c = true := h.value c (by rw [hcs]; exact List.mem_cons_self)
      simp [Text.dropBlankStart, (isLineChar_of_isPlainChar hc).1]
  unfold value?
  rw [hdrop]
  split
  · next hcomment => exact absurd (by rw [hcomment]; rfl) h.noComment
  · rw [foldlM_next?_of_plain env h.value]
    simp [Draft.value?]

/-- A plain line is the pair that it writes. -/
theorem IsPlain.ofTrimmed?_lineOf (h : IsPlain pair) (env : Environment) :
    ofTrimmed? env (lineOf pair) = some (some pair) := by
  obtain ⟨c, cs, hcs, hc⟩ := h.lineOf_cons
  have hname : name? (lineOf pair) = some (pair.1, '=' :: pair.2.toList) := by
    have htake : (lineOf pair).takeWhile isNameChar = pair.1.toList := by
      rw [lineOf, List.takeWhile_append_of_pos h.goesOn]
      simp [isNameChar]
    have hdrop : (lineOf pair).dropWhile isNameChar = '=' :: pair.2.toList := by
      rw [lineOf, List.dropWhile_append_of_pos h.goesOn]
      simp [isNameChar]
    rw [hcs] at htake hdrop ⊢
    simp only [name?, hc, if_true, htake, hdrop, String.ofList_toList]
  have hmark : Text.dropBlankStart ('=' :: pair.2.toList) = '=' :: pair.2.toList := rfl
  rw [hcs] at hname ⊢
  unfold ofTrimmed?
  split
  · next hnil => cases hnil
  · next hcomment =>
    cases hcomment
    exact absurd hc (by decide)
  · simp [hname, hmark, h.value?_eq env]

end Pairs

/-! ## Variables -/

theorem lookup_extend (env : Environment) (pair : String × String) (name : String) :
    (env.extend pair).lookup name = (env.lookup name).or ([pair].lookup name) := by
  obtain ⟨key, text⟩ := pair
  unfold extend
  split
  · next hset =>
    by_cases hname : name = key
    · obtain ⟨t, ht⟩ := Option.isSome_iff_exists.mp hset
      rw [hname, ht, Option.some_or]
    · have hbeq : (name == key) = false := by simpa using hname
      simp [List.lookup_cons, hbeq]
  · rw [List.lookup_append]

/-- Lines that are pairs give their texts to the variables that have none yet. -/
theorem lookup_withLines {ls : List (List Char)} {pairs : List (String × String)}
    (hls : ls.map Text.trimChars = pairs.map lineOf) (hplain : ∀ pair ∈ pairs, IsPlain pair) (env : Environment)
    (name : String) : (env.withLines ls).lookup name = (env ++ pairs).lookup name := by
  induction ls generalizing env pairs with
  | nil =>
    obtain rfl : pairs = [] := List.map_eq_nil_iff.mp hls.symm
    rw [withLines, List.append_nil]
  | cons l ls ih =>
    cases pairs with
    | nil => cases hls
    | cons pair pairs =>
      obtain ⟨hl, hmore⟩ := List.cons_eq_cons.mp hls
      have hread := (hplain pair List.mem_cons_self).ofTrimmed?_lineOf env
      rw [withLines, hl, hread]
      show ((env.extend pair).withLines ls).lookup name = _
      rw [ih hmore (fun q hq => hplain q (List.mem_cons_of_mem _ hq)), List.lookup_append, lookup_extend,
        List.append_cons, List.lookup_append, List.lookup_append]

/-- **A variable has the text that it had, or else the first one in the file.** -/
theorem lookup_withFile {text : String} {pairs : List (String × String)} (h : Writes text.toList pairs)
    (hplain : ∀ pair ∈ pairs, IsPlain pair) (env : Environment) (name : String) :
    (env.withFile text).lookup name = (env ++ pairs).lookup name := by
  have hlines : lines text = linesFrom .plain [] (rowsFrom [] text.toList) := by
    unfold lines
    split
    · next cs hmark =>
      -- no name begins with a byte order mark
      rw [hmark] at h
      have hhead : ∃ c ds, '\ufeff' :: cs = c :: ds ∧ (c.isAlpha || c == '_') = true := by
        generalize hw : '\ufeff' :: cs = w at h
        cases h with
        | nil => cases hw
        | last pair => exact (hplain pair List.mem_cons_self).lineOf_cons
        | cons pair _ _ =>
          obtain ⟨c, ds, hds, hc⟩ := (hplain pair List.mem_cons_self).lineOf_cons
          exact ⟨c, _, by rw [hds]; rfl, hc⟩
      obtain ⟨c, ds, heq, hc⟩ := hhead
      cases heq
      exact absurd hc (by decide)
    · rfl
  rw [withFile, hlines]
  exact lookup_withLines (h.lines hplain) hplain env name

end Courier.Environment
