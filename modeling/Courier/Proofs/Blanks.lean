import Courier.Text.Blank
import Mathlib.Data.List.DropRight

/-!
# Trimming

Characters are what trimming leaves of them, between blanks (`exists_eq_append_trimChars`), and blanks that are put around
a text do not count (`trim_append`). So a trimmed text is not trimmed any further (`trim_trim`), and a text is what
trimming leaves of it exactly when there is no blank at either end (`isTrimmed_iff`).
-/

namespace Courier.Text

theorem dropBlankStart_append {as : List Char} (h : as.all isBlankChar = true) (cs : List Char) :
    dropBlankStart (as ++ cs) = dropBlankStart cs :=
  List.dropWhile_append_of_pos (List.all_eq_true.mp h)

theorem dropBlankEnd_append {bs : List Char} (h : bs.all isBlankChar = true) (cs : List Char) :
    dropBlankEnd (cs ++ bs) = dropBlankEnd cs := by
  have hreverse : ∀ b ∈ bs.reverse, isBlankChar b = true := fun b hb => List.all_eq_true.mp h b (List.mem_reverse.mp hb)
  rw [dropBlankEnd, List.reverse_append, List.dropWhile_append_of_pos hreverse, ← dropBlankEnd]

/-- Blanks around characters do not count. -/
theorem trimChars_append {as bs : List Char} (ha : as.all isBlankChar = true) (hb : bs.all isBlankChar = true)
    (cs : List Char) : trimChars (as ++ cs ++ bs) = trimChars cs := by
  rw [trimChars, List.append_assoc, dropBlankStart_append ha]
  by_cases hcs : cs.all isBlankChar = true
  · have hall : (cs ++ bs).all isBlankChar = true := by rw [List.all_append, hcs, hb, Bool.and_self]
    rw [← trimChars, trimChars_eq_nil_iff.mpr hall, trimChars_eq_nil_iff.mpr hcs]
  · have hne : cs.dropWhile isBlankChar ≠ [] := fun h => hcs (all_of_dropWhile_eq_nil h)
    have happend : dropBlankStart (cs ++ bs) = dropBlankStart cs ++ bs := by
      rw [dropBlankStart, List.dropWhile_append, if_neg (by simpa using hne), ← dropBlankStart]
    rw [happend, dropBlankEnd_append hb, ← trimChars]

/-- Characters are what trimming leaves of them, between blanks. -/
theorem exists_eq_append_trimChars (cs : List Char) : ∃ as bs, as.all isBlankChar = true ∧ bs.all isBlankChar = true ∧
    cs = as ++ trimChars cs ++ bs := by
  refine ⟨cs.takeWhile isBlankChar, ((dropBlankStart cs).reverse.takeWhile isBlankChar).reverse,
    List.all_takeWhile, ?_, ?_⟩
  · rw [List.all_reverse]
    exact List.all_takeWhile
  · have hend : trimChars cs ++ ((dropBlankStart cs).reverse.takeWhile isBlankChar).reverse = dropBlankStart cs := by
      rw [trimChars, dropBlankEnd, ← List.reverse_append, List.takeWhile_append_dropWhile, List.reverse_reverse]
    rw [List.append_assoc, hend]
    exact List.takeWhile_append_dropWhile.symm

theorem trimChars_trimChars (cs : List Char) : trimChars (trimChars cs) = trimChars cs := by
  obtain ⟨as, bs, ha, hb, heq⟩ := exists_eq_append_trimChars cs
  calc trimChars (trimChars cs) = trimChars (as ++ trimChars cs ++ bs) := (trimChars_append ha hb _).symm
    _ = trimChars cs := by rw [← heq]

/-- Characters without blanks are not trimmed. -/
theorem trimChars_eq_self {cs : List Char} (h : ∀ c ∈ cs, isBlankChar c = false) : trimChars cs = cs := by
  obtain ⟨as, bs, ha, hb, heq⟩ := exists_eq_append_trimChars cs
  have hnil : ∀ ds : List Char, ds.all isBlankChar = true → (∀ c ∈ ds, c ∈ cs) → ds = [] := by
    intro ds hds hmem
    refine List.eq_nil_iff_forall_not_mem.mpr fun c hc => ?_
    rw [List.all_eq_true] at hds
    exact Bool.false_ne_true ((h c (hmem c hc)).symm.trans (hds c hc))
  obtain rfl := hnil as ha fun c hc => by rw [heq]; simp [hc]
  obtain rfl := hnil bs hb fun c hc => by rw [heq]; simp [hc]
  rw [List.nil_append, List.append_nil] at heq
  exact heq.symm

theorem head_dropBlankStart (cs : List Char) : ∀ c ∈ (dropBlankStart cs).head?, isBlankChar c = false := by
  intro c hc
  have hnot := List.head?_dropWhile_not isBlankChar cs
  rw [dropBlankStart] at hc
  rw [hc] at hnot
  exact hnot

/-- There are no blanks in front of characters that do not begin with one. -/
theorem eq_nil_of_head {as cs : List Char} (ha : as.all isBlankChar = true)
    (h : ∀ c ∈ (as ++ cs).head?, isBlankChar c = false) : as = [] := by
  cases as with
  | nil => rfl
  | cons a as =>
    have hblank : isBlankChar a = true := List.all_eq_true.mp ha a List.mem_cons_self
    exact absurd ((h a rfl).symm.trans hblank) Bool.false_ne_true

theorem head_trimChars (cs : List Char) : ∀ c ∈ (trimChars cs).head?, isBlankChar c = false := by
  intro c hc
  -- the head is that of the characters without the blanks at the start: only the end is cut off
  have hprefix : trimChars cs <+: dropBlankStart cs := by
    rw [← List.reverse_suffix, trimChars, dropBlankEnd, List.reverse_reverse]
    exact List.dropWhile_suffix _
  obtain ⟨bs, hbs⟩ := hprefix
  refine head_dropBlankStart cs c ?_
  rw [← hbs, List.head?_append, Option.mem_def.mp hc, Option.some_or]
  rfl

theorem getLast_trimChars (cs : List Char) : ∀ c ∈ (trimChars cs).getLast?, isBlankChar c = false := by
  intro c hc
  rw [trimChars, dropBlankEnd, List.getLast?_reverse] at hc
  exact head_dropBlankStart _ c hc

variable (s : String)

/-- Blanks around a text do not count. -/
theorem trim_append {a b : String} (ha : isBlank a = true) (hb : isBlank b = true) : trim (a ++ s ++ b) = trim s := by
  rw [trim, String.toList_append, String.toList_append, trimChars_append ha hb, ← trim]

/-- A text without blanks is not trimmed. -/
theorem trim_eq_self {s : String} (h : ∀ c ∈ s.toList, isBlankChar c = false) : trim s = s := by
  rw [trim, trimChars_eq_self h, String.ofList_toList]

@[simp] theorem trim_trim : trim (trim s) = trim s := by
  rw [trim, trim, String.toList_ofList, trimChars_trimChars]

theorem trim_trimStart : trim (trimStart s) = trim s := by
  rw [trim, trimStart, String.toList_ofList, trimChars, dropBlankStart, dropBlankStart, List.dropWhile_idempotent,
    ← dropBlankStart, ← trimChars, ← trim]

/-- A text is what trimming leaves of it, between blanks. -/
theorem exists_eq_append_trim : ∃ a b, isBlank a = true ∧ isBlank b = true ∧ s = a ++ trim s ++ b := by
  obtain ⟨as, bs, ha, hb, heq⟩ := exists_eq_append_trimChars s.toList
  refine ⟨.ofList as, .ofList bs, by simpa [isBlank] using ha, by simpa [isBlank] using hb, ?_⟩
  rw [← String.toList_inj]
  simpa [trim] using heq

theorem exists_eq_append_trimStart : ∃ a, isBlank a = true ∧ s = a ++ trimStart s := by
  refine ⟨.ofList (s.toList.takeWhile isBlankChar), ?_, ?_⟩
  · simp [isBlank, List.all_takeWhile]
  · rw [← String.toList_inj]
    simp [trimStart, dropBlankStart]

theorem trimStart_append {a : String} (ha : isBlank a = true) : trimStart (a ++ s) = trimStart s := by
  rw [trimStart, String.toList_append, dropBlankStart_append ha, ← trimStart]

/-- A text that is not empty and has no blank at either end. -/
structure IsTrimmed (s : String) : Prop where
  ne_empty : s ≠ ""
  head : ∀ c ∈ s.toList.head?, isBlankChar c = false
  last : ∀ c ∈ s.toList.getLast?, isBlankChar c = false

theorem isTrimmed_trim (h : trim s ≠ "") : IsTrimmed (trim s) where
  ne_empty := h
  head := by
    rw [trim, String.toList_ofList]
    exact head_trimChars _
  last := by
    rw [trim, String.toList_ofList]
    exact getLast_trimChars _

theorem isTrimmed_iff {s : String} : IsTrimmed s ↔ s ≠ "" ∧ trim s = s := by
  constructor
  · rintro ⟨hne, hhead, hlast⟩
    obtain ⟨as, bs, ha, hb, heq⟩ := exists_eq_append_trimChars s.toList
    have has : as = [] := by
      rw [heq, List.append_assoc] at hhead
      exact eq_nil_of_head ha hhead
    have hbs : bs = [] := by
      rw [heq, ← List.head?_reverse, List.reverse_append] at hlast
      exact List.reverse_eq_nil_iff.mp (eq_nil_of_head (by rwa [List.all_reverse]) hlast)
    rw [has, hbs, List.nil_append, List.append_nil] at heq
    exact ⟨hne, by rw [trim, ← heq, String.ofList_toList]⟩
  · rintro ⟨hne, htrim⟩
    rw [← htrim] at hne ⊢
    exact isTrimmed_trim s hne

/-- A text without a blank in front stays in front. -/
theorem IsTrimmed.trimStart_append {t : String} (h : IsTrimmed t) : trimStart (t ++ s) = t ++ s := by
  obtain ⟨c, cs, hcs⟩ := List.exists_cons_of_ne_nil fun hnil => h.ne_empty (String.toList_eq_nil_iff.mp hnil)
  have hc := h.head c (by rw [hcs]; rfl)
  rw [trimStart, String.toList_append, hcs, List.cons_append, dropBlankStart,
    List.dropWhile_cons_of_neg (by simp [hc]), ← List.cons_append, ← hcs, ← String.toList_append, String.ofList_toList]

end Courier.Text
