import Courier.Proofs.Admission
import Courier.Proofs.Decimals

/-!
# Presented tokens

A header is read only if every octet of its value is printable (`Http.readable_iff`), and the blanks of such a value are
spaces and tabs (`Http.isPadding_iff`). What is taken off a value to get at its token is therefore spaces, tabs and at
most one mark: a request presents a token exactly when its first header for tokens holds it in such a wrapping
(`Api.presentedToken_eq_some_iff_holds`). Whatever follows a mark is only trimmed (`Api.bearerToken_marked`). A word
ends at the first blank (`Http.IsWord.takeWhile_append`), so a token of visible characters is never cut, and only the
word of the mark itself, with a space behind it, is taken for a mark (`Api.eq_bearer_of_append_eq`).
-/

namespace Courier

/-! ## Texts of ASCII -/

namespace Octets

/-- A text whose octets are all below 128 has a character for each of them. -/
theorem toList_eq_toAscii {s : String} (h : ∀ b ∈ ofText s, b.toNat < 128) : s.toList = toAscii (ofText s) := by
  have htable : ∀ k < 128, (Char.ofNat k).toNat = k := by decide
  have hchar : ∀ b ∈ ofText s, (Char.ofNat b.toNat).toNat = b.toNat := fun b hb => htable b.toNat (h b hb)
  have hsmall : ∀ c ∈ toAscii (ofText s), c.toNat < 128 := by
    intro c hc
    obtain ⟨b, hb, rfl⟩ := List.mem_map.mp hc
    rw [hchar b hb]
    exact h b hb
  have hback : ofAscii (toAscii (ofText s)) = ofText s := by
    rw [ofAscii, toAscii, List.map_map]
    refine (List.map_congr_left fun b hb => ?_).trans (List.map_id _)
    rw [Function.comp_apply, hchar b hb]
    exact UInt8.ofNat_toNat
  -- these characters have the octets of the text, and so they are its characters
  have htext : ofText (.ofList (toAscii (ofText s))) = ofText s := (ofText_ofList hsmall).trans hback
  have hlist := String.toList_ofList (l := toAscii (ofText s))
  rwa [ofText_injective htext] at hlist

end Octets

/-! ## Values of headers -/

namespace Http

/-- The first header with a name has a value, printable or not. -/
def Request.First (r : Request) (name value : String) : Prop :=
  ∃ before key after, r.headers = before ++ (key, value) :: after ∧ key.toList.map Char.toLower = name.toList ∧
    ∀ h ∈ before, h.1.toList.map Char.toLower ≠ name.toList

/-- A tab, or an octet of a printable character of ASCII. -/
def IsPrintableOctet (b : UInt8) : Prop := b = 0x09 ∨ 0x20 ≤ b ∧ b ≤ 0x7E

instance : DecidablePred IsPrintableOctet := fun b => inferInstanceAs (Decidable (b = 0x09 ∨ 0x20 ≤ b ∧ b ≤ 0x7E))

/-- A value that is read: all its octets are printable. -/
def Readable (value : String) : Prop := ∀ b ∈ Octets.ofText value, IsPrintableOctet b

/-- A run of spaces and tabs. -/
def IsPadding (s : String) : Prop := ∀ c ∈ s.toList, c = ' ' ∨ c = '\t'

instance : DecidablePred IsPadding := fun s =>
  decidable_of_iff ((s.toList.all fun c => c == ' ' || c == '\t') = true) (by simp [IsPadding])

/-- A text of visible characters of ASCII, and at least one. -/
structure IsWord (t : String) : Prop where
  ne_empty : t ≠ ""
  visible : ∀ c ∈ t.toList, 0x21 ≤ c.toNat ∧ c.toNat ≤ 0x7E

instance : DecidablePred IsWord := fun t =>
  decidable_of_iff (t ≠ "" ∧ (t.toList.all fun c => 0x21 ≤ c.toNat && c.toNat ≤ 0x7E) = true)
    ⟨fun ⟨hne, hvisible⟩ => ⟨hne, by simpa using hvisible⟩, fun h => ⟨h.ne_empty, by simpa using h.visible⟩⟩

theorem isPrintable_iff {c : Char} : isPrintable c = true ↔ c = '\t' ∨ 0x20 ≤ c.toNat ∧ c.toNat ≤ 0x7E := by
  simp [isPrintable]

theorem lt_of_isPrintable {c : Char} (h : isPrintable c = true) : c.toNat < 0x7F := by
  rcases isPrintable_iff.mp h with rfl | h
  · decide
  · omega

theorem isPrintableOctet_of_isPrintable {c : Char} (h : isPrintable c = true) : IsPrintableOctet c.toNat.toUInt8 := by
  have htable : ∀ k < 0x7F, isPrintable (Char.ofNat k) = true → IsPrintableOctet k.toUInt8 := by decide
  refine htable c.toNat (lt_of_isPrintable h) ?_
  rwa [Char.ofNat_toNat]

theorem IsPrintableOctet.toNat_lt {b : UInt8} (h : IsPrintableOctet b) : b.toNat < 0x7F := by
  rcases h with rfl | ⟨-, h⟩
  · decide
  · exact Nat.lt_succ_of_le (UInt8.le_iff_toNat_le.mp h)

theorem isPrintable_of_isPrintableOctet {b : UInt8} (h : IsPrintableOctet b) :
    isPrintable (Char.ofNat b.toNat) = true := by
  have htable : ∀ k < 0x7F, IsPrintableOctet k.toUInt8 → isPrintable (Char.ofNat k) = true := by decide
  refine htable b.toNat h.toNat_lt ?_
  rwa [Nat.toUInt8, UInt8.ofNat_toNat]

/-- The octets of a value are readable exactly when its characters are printable. -/
theorem readable_iff {value : String} : Readable value ↔ ∀ c ∈ value.toList, isPrintable c = true := by
  constructor
  · intro h c hc
    rw [Octets.toList_eq_toAscii fun b hb => Nat.lt_trans (h b hb).toNat_lt (by decide)] at hc
    obtain ⟨b, hb, rfl⟩ := List.mem_map.mp hc
    exact isPrintable_of_isPrintableOctet (h b hb)
  · intro h b hb
    have hsmall : ∀ c ∈ value.toList, c.toNat < 128 := fun c hc =>
      Nat.lt_trans (lt_of_isPrintable (h c hc)) (by decide)
    rw [← String.ofList_toList (s := value), Octets.ofText_ofList hsmall] at hb
    obtain ⟨c, hc, rfl⟩ := List.mem_map.mp hb
    exact isPrintableOctet_of_isPrintable (h c hc)

theorem readable_append {a b : String} : Readable (a ++ b) ↔ Readable a ∧ Readable b := by
  simp only [readable_iff, String.toList_append, List.mem_append, or_imp, forall_and]

/-- The blanks that are printable are the space and the tab. -/
theorem isPrintable_and_isBlankChar_iff {c : Char} :
    isPrintable c = true ∧ Text.isBlankChar c = true ↔ c = ' ' ∨ c = '\t' := by
  constructor
  · rintro ⟨hprintable, hblank⟩
    have htable : ∀ k < 0x7F, Text.isBlankChar (Char.ofNat k) = true → isPrintable (Char.ofNat k) = true →
        Char.ofNat k = ' ' ∨ Char.ofNat k = '\t' := by decide
    have hchar := htable c.toNat (lt_of_isPrintable hprintable)
    rw [Char.ofNat_toNat] at hchar
    exact hchar hblank hprintable
  · rintro (rfl | rfl) <;> decide

/-- Padding is what is readable and blank. -/
theorem isPadding_iff {s : String} : IsPadding s ↔ Readable s ∧ Text.isBlank s = true := by
  simp only [IsPadding, readable_iff, Text.isBlank, List.all_eq_true, ← isPrintable_and_isBlankChar_iff, imp_and,
    forall_and]

theorem IsPadding.readable {s : String} (h : IsPadding s) : Readable s := (isPadding_iff.mp h).1

theorem IsPadding.isBlank {s : String} (h : IsPadding s) : Text.isBlank s = true := (isPadding_iff.mp h).2

section Words

variable {t : String}

theorem IsWord.readable (h : IsWord t) : Readable t :=
  readable_iff.mpr fun c hc => isPrintable_iff.mpr (.inr ⟨Nat.le_of_succ_le (h.visible c hc).1, (h.visible c hc).2⟩)

theorem IsWord.isBlankChar (h : IsWord t) {c : Char} (hc : c ∈ t.toList) : Text.isBlankChar c = false := by
  rw [Bool.eq_false_iff]
  intro hblank
  have hvisible := (h.visible c hc).1
  rcases isPrintable_and_isBlankChar_iff.mp ⟨readable_iff.mp h.readable c hc, hblank⟩ with rfl | rfl
  · exact absurd hvisible (by decide)
  · exact absurd hvisible (by decide)

/-- A word ends at the first blank. -/
theorem IsWord.takeWhile_append (h : IsWord t) {s : String} (hs : ∀ c ∈ s.toList.head?, Text.isBlankChar c = true) :
    (t ++ s).toList.takeWhile (fun c => !Text.isBlankChar c) = t.toList := by
  have hword : ∀ c ∈ t.toList, (!Text.isBlankChar c) = true := by
    intro c hc
    rw [h.isBlankChar hc, Bool.not_false]
  have hstop : s.toList.takeWhile (fun c => !Text.isBlankChar c) = [] := by
    cases hcs : s.toList with
    | nil => rfl
    | cons c cs => exact List.takeWhile_cons_of_neg (by simp [hs c (by rw [hcs]; rfl)])
  rw [String.toList_append, List.takeWhile_append_of_pos hword, hstop, List.append_nil]

theorem IsWord.isTrimmed (h : IsWord t) : Text.IsTrimmed t :=
  Text.isTrimmed_iff.mpr ⟨h.ne_empty, Text.trim_eq_self fun _ => h.isBlankChar⟩

end Words

section First

variable {r : Request} {name value v : String}

theorem Request.first_iff : r.First name value ↔
    ∃ key, r.headers.find? (fun h => h.1.toList.map Char.toLower == name.toList) = some (key, value) := by
  simp only [First, List.find?_eq_some_iff_append, beq_iff_eq, Bool.not_eq_true', beq_eq_false_iff_ne]
  constructor
  · rintro ⟨before, key, after, heq, hkey, hbefore⟩
    exact ⟨key, hkey, before, after, heq, hbefore⟩
  · rintro ⟨key, hkey, before, after, heq, hbefore⟩
    exact ⟨before, key, after, heq, hkey, hbefore⟩

theorem Request.First.unique (h : r.First name value) (h' : r.First name v) : v = value := by
  obtain ⟨key, hfind⟩ := first_iff.mp h
  obtain ⟨key', hfind'⟩ := first_iff.mp h'
  exact congrArg Prod.snd (Option.some.inj (hfind'.symm.trans hfind))

/-- A header shows the first value under its name, if this one is readable. -/
theorem Request.shows_iff : r.Shows name value ↔ r.First name value ∧ Readable value := by
  rw [readable_iff]
  constructor
  · rintro ⟨before, key, after, heq, hkey, hbefore, hall⟩
    exact ⟨⟨before, key, after, heq, hkey, hbefore⟩, hall⟩
  · rintro ⟨⟨before, key, after, heq, hkey, hbefore⟩, hall⟩
    exact ⟨before, key, after, heq, hkey, hbefore, hall⟩

end First

end Http

/-! ## Tokens in their wrapping -/

namespace Api

open Http

/-- A value holds a token: there are spaces and tabs around it, and in front of it there is at most one mark. If there
is none, then what stands there does not begin like one. -/
inductive Holds (t : String) : String → Prop
  | marked {p q s : String} (hp : IsPadding p) (hq : IsPadding q) (hs : IsPadding s) :
    Holds t (p ++ "Bearer " ++ q ++ t ++ s)
  | plain {p s : String} (hp : IsPadding p) (hs : IsPadding s) (hmark : ∀ rest, t ++ s ≠ "Bearer " ++ rest) :
    Holds t (p ++ t ++ s)

theorem Holds.exists_eq_append {t value : String} (h : Holds t value) : ∃ a b, value = a ++ t ++ b := by
  cases h with
  | marked => exact ⟨_, _, rfl⟩
  | plain => exact ⟨_, _, rfl⟩

theorem isWord_bearer : IsWord "Bearer" := by decide

theorem readable_bearerMark : Readable "Bearer " := readable_iff.mpr (List.all_eq_true.mp (by decide))

theorem bearerMark_append (rest : String) : bearerMark ++ rest = "Bearer" ++ (" " ++ rest) :=
  @String.append_assoc "Bearer" " " rest

theorem trimStart_bearerMark (rest : String) : Text.trimStart (bearerMark ++ rest) = bearerMark ++ rest := by
  rw [bearerMark_append, isWord_bearer.isTrimmed.trimStart_append]

/-- Only one word, with a blank behind it, begins like a mark. -/
theorem eq_bearer_of_append_eq {t s rest : String} (ht : IsWord t) (hs : IsPadding s)
    (h : t ++ s = "Bearer " ++ rest) : t = "Bearer" := by
  have hblank : ∀ c ∈ s.toList.head?, Text.isBlankChar c = true := fun c hc =>
    (isPrintable_and_isBlankChar_iff.mpr (hs c (List.mem_of_mem_head? hc))).2
  have hspace : ∀ c ∈ (" " ++ rest).toList.head?, Text.isBlankChar c = true := by
    intro c hc
    rw [String.toList_append] at hc
    cases hc
    decide
  have hsame : t ++ s = "Bearer" ++ (" " ++ rest) := h.trans (bearerMark_append rest)
  -- both words are what stands before the first blank
  have hword := ht.takeWhile_append hblank
  rw [hsame, isWord_bearer.takeWhile_append hspace] at hword
  exact String.toList_inj.mp hword.symm

/-- Only one mark is taken off: what follows it is trimmed, whatever it begins with. -/
theorem bearerToken_marked {p : String} (hp : Text.isBlank p = true) (rest : String) :
    bearerToken (p ++ "Bearer " ++ rest) = unlessEmpty (Text.trim rest) := by
  have hfront : Text.trimStart (p ++ "Bearer " ++ rest) = bearerMark ++ rest := by
    rw [String.append_assoc, Text.trimStart_append _ hp]
    exact trimStart_bearerMark rest
  rcases bearerToken_cases (p ++ "Bearer " ++ rest) with ⟨rest', hrest', heq⟩ | ⟨hnone, -⟩
  · obtain rfl : rest = rest' := (String.append_right_inj bearerMark).mp (hfront.symm.trans hrest')
    exact heq
  · exact absurd hfront (hnone rest)

theorem bearerToken_of_isBlank {p : String} (hp : Text.isBlank p = true) : bearerToken p = none := by
  rcases bearerToken_cases p with ⟨rest, hrest, -⟩ | ⟨-, heq⟩
  · have hempty : Text.trimStart p = "" := by
      rw [Text.trimStart, Text.dropBlankStart, Text.dropWhile_eq_nil_of_all hp, String.ofList_nil]
    rw [hempty] at hrest
    exact absurd (congrArg String.toList hrest) (by simp [bearerMark])
  · rw [heq, Text.isBlank_iff_trim_eq.mp hp]
    rfl

/-- What is held is taken out. -/
theorem bearerToken_of_holds {value t : String} (ht : Text.IsTrimmed t) (h : Holds t value) :
    bearerToken value = some t := by
  obtain ⟨hne, htrim⟩ := Text.isTrimmed_iff.mp ht
  cases h with
  | @marked p q s hp hq hs =>
    have hassoc : p ++ "Bearer " ++ q ++ t ++ s = p ++ "Bearer " ++ (q ++ t ++ s) := by
      simp only [String.append_assoc]
    rw [hassoc, bearerToken_marked hp.isBlank, Text.trim_append _ hq.isBlank hs.isBlank, htrim]
    exact unlessEmpty_eq_some_iff.mpr ⟨hne, rfl⟩
  | @plain p s hp hs hmark =>
    have hfront : Text.trimStart (p ++ t ++ s) = t ++ s := by
      rw [String.append_assoc, Text.trimStart_append _ hp.isBlank, ht.trimStart_append]
    rcases bearerToken_cases (p ++ t ++ s) with ⟨rest, hrest, -⟩ | ⟨-, heq⟩
    · exact absurd (hfront.symm.trans hrest) (hmark rest)
    · rw [heq, Text.trim_append _ hp.isBlank hs.isBlank, htrim]
      exact unlessEmpty_eq_some_iff.mpr ⟨hne, rfl⟩

/-- What is taken out of a value that is read was held in it. -/
theorem holds_of_bearerToken {value t : String} (hvalue : Readable value) (h : bearerToken value = some t) :
    Text.IsTrimmed t ∧ Holds t value := by
  cases bearerToken_eq_some_iff.mp h with
  | @marked rest hmark hne =>
    obtain ⟨p, hp, hfront⟩ := Text.exists_eq_append_trimStart value
    obtain ⟨q, s, hq, hs, hrest⟩ := Text.exists_eq_append_trim rest
    have heq : value = p ++ "Bearer " ++ q ++ Text.trim rest ++ s := by
      calc value = p ++ (bearerMark ++ rest) := by rw [← hmark]; exact hfront
        _ = p ++ (bearerMark ++ (q ++ Text.trim rest ++ s)) := by rw [← hrest]
        _ = p ++ "Bearer " ++ q ++ Text.trim rest ++ s := by simp only [bearerMark, String.append_assoc]
    rw [heq] at hvalue ⊢
    simp only [readable_append] at hvalue
    obtain ⟨⟨⟨⟨hpadding, -⟩, hbetween⟩, -⟩, hbehind⟩ := hvalue
    exact ⟨Text.isTrimmed_trim rest hne, .marked (isPadding_iff.mpr ⟨hpadding, hp⟩) (isPadding_iff.mpr ⟨hbetween, hq⟩)
      (isPadding_iff.mpr ⟨hbehind, hs⟩)⟩
  | plain hmark hne =>
    obtain ⟨p, s, hp, hs, heq⟩ := Text.exists_eq_append_trim value
    have htrimmed := Text.isTrimmed_trim value hne
    have hfront : Text.trimStart value = Text.trim value ++ s := by
      calc Text.trimStart value = Text.trimStart (p ++ (Text.trim value ++ s)) := by
            rw [← String.append_assoc, ← heq]
        _ = Text.trim value ++ s := by rw [Text.trimStart_append _ hp, htrimmed.trimStart_append]
    have hparts : Readable (p ++ Text.trim value ++ s) := by rwa [← heq]
    obtain ⟨⟨hpadding, -⟩, hbehind⟩ := (readable_append.mp hparts).imp_left readable_append.mp
    have hholds : Holds (Text.trim value) (p ++ Text.trim value ++ s) :=
      .plain (isPadding_iff.mpr ⟨hpadding, hp⟩) (isPadding_iff.mpr ⟨hbehind, hs⟩) fun rest hrest =>
        hmark rest (hfront.trans hrest)
    rw [← heq] at hholds
    exact ⟨htrimmed, hholds⟩

/-! ## Requests -/

variable {r : Http.Request} {value t : String}

theorem presentedToken_of_first (h : r.First "authorization" value) (hvalue : Readable value) :
    presentedToken r = bearerToken value := by
  rw [presentedToken, Http.Request.header?_eq_some_iff.mpr (Http.Request.shows_iff.mpr ⟨h, hvalue⟩), Option.bind_some]

theorem presentedToken_of_marked {p rest : String} (hp : IsPadding p) (hrest : Readable rest)
    (h : r.First "authorization" (p ++ "Bearer " ++ rest)) : presentedToken r = unlessEmpty (Text.trim rest) := by
  have hvalue : Readable (p ++ "Bearer " ++ rest) :=
    readable_append.mpr ⟨readable_append.mpr ⟨hp.readable, readable_bearerMark⟩, hrest⟩
  rw [presentedToken_of_first h hvalue, bearerToken_marked hp.isBlank]

theorem presentedToken_eq_none (h : ∀ v, ¬ r.Shows "authorization" v) : presentedToken r = none := by
  cases hheader : r.header? "authorization" with
  | none => rw [presentedToken, hheader, Option.bind_none]
  | some v => exact absurd (Http.Request.header?_eq_some_iff.mp hheader) (h v)

theorem presentedToken_of_not_readable (h : r.First "authorization" value) (hvalue : ¬ Readable value) :
    presentedToken r = none := by
  refine presentedToken_eq_none fun v hv => ?_
  obtain ⟨hfirst, hreadable⟩ := Http.Request.shows_iff.mp hv
  obtain rfl := h.unique hfirst
  exact hvalue hreadable

/-- A request presents exactly the token that its first header holds, if this header is read. -/
theorem presentedToken_eq_some_iff_holds (h : r.First "authorization" value) :
    presentedToken r = some t ↔ Readable value ∧ Text.IsTrimmed t ∧ Holds t value := by
  by_cases hvalue : Readable value
  · rw [presentedToken_of_first h hvalue]
    exact ⟨fun ht => ⟨hvalue, holds_of_bearerToken hvalue ht⟩, fun ⟨_, ht, hholds⟩ => bearerToken_of_holds ht hholds⟩
  · rw [presentedToken_of_not_readable h hvalue]
    exact ⟨nofun, fun hheld => absurd hheld.1 hvalue⟩

/-- What a request presents, told by its first header for tokens. -/
structure Unwraps (r : Http.Request) : Prop where
  /-- Spaces and tabs may stand in front of the mark, behind it and behind the token. -/
  marked : ∀ p q t s, IsPadding p → IsPadding q → IsWord t → IsPadding s →
    r.First "authorization" (p ++ "Bearer " ++ q ++ t ++ s) → presentedToken r = some t
  /-- The mark may be left out in front of any token but the word that it consists of. -/
  unmarked : ∀ p t s, IsPadding p → IsWord t → t ≠ "Bearer" → IsPadding s →
    r.First "authorization" (p ++ t ++ s) → presentedToken r = some t
  blank : ∀ p, IsPadding p → r.First "authorization" p → presentedToken r = none
  bareMark : ∀ p s, IsPadding p → IsPadding s → r.First "authorization" (p ++ "Bearer " ++ s) →
    presentedToken r = none
  /-- Only one mark is taken off: what follows it is trimmed, whatever it begins with. -/
  behindMark : ∀ p rest t, IsPadding p → Readable rest → r.First "authorization" (p ++ "Bearer " ++ rest) →
    (presentedToken r = some t ↔ t ≠ "" ∧ Text.trim rest = t)
  /-- The token is a part of the value, with blanks around it and at most one mark in front. -/
  held : ∀ value t, r.First "authorization" value →
    (presentedToken r = some t ↔ Readable value ∧ Text.IsTrimmed t ∧ Holds t value)
  part : ∀ value t, r.First "authorization" value → presentedToken r = some t →
    Text.IsTrimmed t ∧ ∃ a b, value = a ++ t ++ b
  /-- A header with an octet that is neither a tab nor a printable one of ASCII does not count. -/
  unreadable : ∀ value, r.First "authorization" value →
    ∀ b ∈ Octets.ofText value, b ≠ 0x09 → b < 0x20 ∨ 0x7E < b → presentedToken r = none
  absent : (∀ h ∈ r.headers, h.1.toList.map Char.toLower ≠ "authorization".toList) → presentedToken r = none

/-- **What a header presents as a token.** A word of visible characters is presented as it is, whatever spaces and tabs
stand around it: behind a mark any word, and without a mark any but the one that the mark consists of. Blanks present
nothing, and neither does a mark with blanks around it. Not more than one mark is taken off. Whatever is presented is a
part of the value, is not empty and has no blank at either end. A header with an octet that is not printable presents
nothing, nor does a request without the header. -/
theorem token_unwrapped (r : Http.Request) : Unwraps r where
  marked p q t s hp hq ht hs h := by
    have hreadable : Readable (p ++ "Bearer " ++ q ++ t ++ s) := by
      simp only [readable_append]
      exact ⟨⟨⟨⟨hp.readable, readable_bearerMark⟩, hq.readable⟩, ht.readable⟩, hs.readable⟩
    exact (presentedToken_eq_some_iff_holds h).mpr ⟨hreadable, ht.isTrimmed, .marked hp hq hs⟩
  unmarked p t s hp ht hne hs h := by
    have hreadable : Readable (p ++ t ++ s) := by
      simp only [readable_append]
      exact ⟨⟨hp.readable, ht.readable⟩, hs.readable⟩
    have hmark : ∀ rest, t ++ s ≠ "Bearer " ++ rest := fun rest heq => hne (eq_bearer_of_append_eq ht hs heq)
    exact (presentedToken_eq_some_iff_holds h).mpr ⟨hreadable, ht.isTrimmed, .plain hp hs hmark⟩
  blank p hp h := by
    rw [presentedToken_of_first h hp.readable, bearerToken_of_isBlank hp.isBlank]
  bareMark p s hp hs h := by
    rw [presentedToken_of_marked hp hs.readable h, Text.isBlank_iff_trim_eq.mp hs.isBlank]
    rfl
  behindMark p rest t hp hrest h := by
    rw [presentedToken_of_marked hp hrest h, unlessEmpty_eq_some_iff]
    constructor
    · rintro ⟨hne, rfl⟩
      exact ⟨hne, rfl⟩
    · rintro ⟨hne, rfl⟩
      exact ⟨hne, rfl⟩
  held value t h := presentedToken_eq_some_iff_holds h
  part value t h ht := by
    obtain ⟨-, htrimmed, hholds⟩ := (presentedToken_eq_some_iff_holds h).mp ht
    exact ⟨htrimmed, hholds.exists_eq_append⟩
  unreadable value h b hb htab hrange := by
    refine presentedToken_of_not_readable h fun hreadable => ?_
    rcases hreadable b hb with heq | ⟨hlow, hhigh⟩
    · exact htab heq
    · rcases hrange with hlt | hlt
      · exact absurd hlow (UInt8.not_le.mpr hlt)
      · exact absurd hhigh (UInt8.not_le.mpr hlt)
  absent h := by
    refine presentedToken_eq_none ?_
    rintro v ⟨before, key, after, heq, hkey, -⟩
    exact h (key, v) (by rw [heq]; exact List.mem_append_right _ List.mem_cons_self) hkey

/-- A request with a value in its header for tokens. -/
def bearing (value : String) : Http.Request := ⟨"GET", "/", [("Accept", "*/*"), ("AUTHORIZATION", value)], []⟩

theorem bearing_first (value : String) : (bearing value).First "authorization" value :=
  ⟨[("Accept", "*/*")], "AUTHORIZATION", [], rfl, by decide, by decide⟩

/-- Tokens that look like marks: the word of the mark behind a mark, a word that begins with it, a second mark, and the
word with a tab behind it. -/
theorem token_unwrapped_lookalikes :
    presentedToken (bearing ("\t " ++ "Bearer " ++ " \t" ++ "Bearer" ++ " ")) = some "Bearer" ∧
    presentedToken (bearing (" " ++ "Bearer-x" ++ " \t")) = some "Bearer-x" ∧
    presentedToken (bearing ("" ++ "Bearer " ++ " Bearer  x ")) = some "Bearer  x" ∧
    presentedToken (bearing ("" ++ "Bearer" ++ "\t")) = some "Bearer" ∧
    presentedToken (bearing ("\t" ++ "Bearer " ++ " \t")) = none ∧
    presentedToken (bearing " \t") = none ∧
    presentedToken (bearing "tök") = none ∧
    presentedToken ⟨"GET", "/", [("Accept", "*/*")], []⟩ = none := by
  have hreadable : Readable " Bearer  x " ∧ Readable ("" ++ "Bearer" ++ "\t") :=
    ⟨readable_iff.mpr (List.all_eq_true.mp (by decide)), readable_iff.mpr (List.all_eq_true.mp (by decide))⟩
  have hmark : ∀ rest, "Bearer" ++ "\t" ≠ "Bearer " ++ rest := by
    intro rest h
    have hlist := congrArg String.toList h
    simp at hlist
  refine ⟨?_, ?_, ?_, ?_, ?_, ?_, ?_, ?_⟩
  · exact (token_unwrapped _).marked _ _ _ _ (by decide) (by decide) (by decide) (by decide) (bearing_first _)
  · exact (token_unwrapped _).unmarked _ _ _ (by decide) (by decide) (by decide) (by decide) (bearing_first _)
  · exact ((token_unwrapped _).behindMark _ _ _ (by decide) hreadable.1 (bearing_first _)).mpr (by decide)
  · exact ((token_unwrapped _).held _ _ (bearing_first _)).mpr
      ⟨hreadable.2, isWord_bearer.isTrimmed, .plain (by decide) (by decide) hmark⟩
  · exact (token_unwrapped _).bareMark _ _ (by decide) (by decide) (bearing_first _)
  · exact (token_unwrapped _).blank _ (by decide) (bearing_first _)
  · exact (token_unwrapped _).unreadable _ (bearing_first _) 0xC3 (by decide) (by decide) (by decide)
  · exact (token_unwrapped _).absent (by decide)

end Api

end Courier
