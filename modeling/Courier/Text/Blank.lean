/-!
# Blank characters

The characters with the Unicode property White_Space, and trimming of texts by it. A text is blank when nothing is
left of it (`isBlank_iff_trim_eq`).
-/

namespace Courier.Text

/-- The ranges of code points with the property White_Space. -/
def blankRanges : List (Nat × Nat) :=
  [(0x09, 0x0D), (0x20, 0x20), (0x85, 0x85), (0xA0, 0xA0), (0x1680, 0x1680), (0x2000, 0x200A), (0x2028, 0x2029),
    (0x202F, 0x202F), (0x205F, 0x205F), (0x3000, 0x3000)]

/-- A character with the property White_Space. -/
def isBlankChar (c : Char) : Bool :=
  blankRanges.any fun (lo, hi) => lo ≤ c.toNat && c.toNat ≤ hi

/-- Characters without the blank ones at the start. -/
def dropBlankStart (cs : List Char) : List Char := cs.dropWhile isBlankChar

/-- Characters without the blank ones at the end. -/
def dropBlankEnd (cs : List Char) : List Char := (cs.reverse.dropWhile isBlankChar).reverse

/-- Characters without the blank ones at either end. -/
def trimChars (cs : List Char) : List Char := dropBlankEnd (dropBlankStart cs)

/-- A text without the blank characters at its start. -/
def trimStart (s : String) : String := String.ofList (dropBlankStart s.toList)

/-- A text without the blank characters at either end. -/
def trim (s : String) : String := String.ofList (trimChars s.toList)

/-- A text of blank characters only. -/
def isBlank (s : String) : Bool := s.toList.all isBlankChar

theorem dropWhile_eq_nil_of_all {p : Char → Bool} {cs : List Char} (h : cs.all p = true) : cs.dropWhile p = [] := by
  induction cs with
  | nil => rfl
  | cons c cs ih =>
    simp only [List.all_cons, Bool.and_eq_true] at h
    simp [h.1, ih h.2]

theorem all_of_dropWhile_eq_nil {p : Char → Bool} {cs : List Char} (h : cs.dropWhile p = []) : cs.all p = true := by
  induction cs with
  | nil => rfl
  | cons c cs ih =>
    by_cases hc : p c = true
    · simp [hc] at h; simp [hc, ih (by simpa using h)]
    · simp [hc] at h

theorem trimChars_eq_nil_iff {cs : List Char} : trimChars cs = [] ↔ cs.all isBlankChar = true := by
  constructor
  · intro h
    have h2 := all_of_dropWhile_eq_nil (List.reverse_eq_nil_iff.mp h)
    rw [List.all_reverse] at h2
    have h3 : dropBlankStart cs = [] := by
      cases hd : dropBlankStart cs with
      | nil => rfl
      | cons c t =>
        have hne : dropBlankStart cs ≠ [] := by simp [hd]
        have := List.head_dropWhile_not isBlankChar hne
        simp only [hd, List.all_cons, Bool.and_eq_true] at h2
        have hh : (dropBlankStart cs).head hne = c := by simp [hd]
        unfold dropBlankStart at hh
        rw [hh, h2.1] at this
        simp at this
    exact all_of_dropWhile_eq_nil h3
  · intro h
    simp [trimChars, dropBlankStart, dropBlankEnd, dropWhile_eq_nil_of_all h]

/-- A text is blank exactly when trimming leaves nothing of it. -/
theorem isBlank_iff_trim_eq {s : String} : isBlank s = true ↔ trim s = "" := by
  unfold isBlank trim
  rw [← trimChars_eq_nil_iff]
  constructor
  · intro h; rw [h]
  · intro h
    have := congrArg String.toList h
    simpa using this

end Courier.Text
