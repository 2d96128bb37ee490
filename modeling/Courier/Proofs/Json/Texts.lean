import Courier.Json.Quoted
import Courier.Proofs.Json.Taking

/-!
# Reading quoted texts back

A text between quotes is written piece by piece, and a piece stands for one octet or for one character that is escaped
(`StandsFor`). `unquote` takes every such text (`Quotes.begins`), and what `quote` has written is one
(`quotes_quote`).
-/

namespace Courier.Json

/-! ## Pieces -/

/-- Four hexadecimal digits with a value. -/
def HexWord (ds : Octets) (n : Nat) : Prop := hexWord ds = .ok (n, [])

/-- What a piece of a quoted text is written with, and the octets that it stands for. -/
inductive StandsFor : Octets → Octets → Prop
  /-- An octet that is not escaped. -/
  | plain {b : UInt8} : 0x20 ≤ b → b ≠ code '"' → b ≠ code '\\' → StandsFor [b] [b]
  /-- An octet with an escape of its own. -/
  | short {e b : UInt8} : shortEscape e = some b → StandsFor [code '\\', e] [b]
  /-- A character by its code point. -/
  | unicode {ds : Octets} {n : Nat} :
      HexWord ds n → n < 0xD800 ∨ 0xDFFF < n → StandsFor (code '\\' :: code 'u' :: ds) (utf8 n)
  /-- A character by two surrogates. -/
  | pair {hs ls : Octets} {high low : Nat} : HexWord hs (0xD800 + high) → HexWord ls (0xDC00 + low) →
      high < 0x400 → low < 0x400 →
      StandsFor (code '\\' :: code 'u' :: (hs ++ code '\\' :: code 'u' :: ls))
        (utf8 (0x10000 + high * 0x400 + low))

/-- A text between quotes, its octets escaped or not. -/
def Quotes (s : String) (o : Octets) : Prop :=
  ∃ ps : List (Octets × Octets), (∀ p ∈ ps, StandsFor p.1 p.2) ∧ ps.flatMap Prod.snd = Octets.ofText s ∧
    o = code '"' :: (ps.flatMap Prod.fst ++ [code '"'])

theorem HexWord.append {ds : Octets} {n : Nat} (h : HexWord ds n) (rest : Octets) :
    hexWord (ds ++ rest) = .ok (n, rest) := by
  unfold HexWord at h
  match ds with
  | [] | [_] | [_, _] | [_, _, _] => simp [hexWord] at h
  | a :: b :: c :: d :: ds =>
    simp only [hexWord] at h
    split at h
    · next ha hb hc hd =>
      cases h
      simp only [List.cons_append, List.nil_append, hexWord, ha, hb, hc, hd]
    · cases h

/-- A piece is read as what it stands for. -/
theorem StandsFor.piece {o p : Octets} (h : StandsFor o p) (rest : Octets) : piece (o ++ rest) = .ok (some p, rest) := by
  cases h with
  | @plain b hlow hquote hslash =>
    have hq : (b == code '"') = false := beq_eq_false_iff_ne.mpr hquote
    have hs : (b == code '\\') = false := beq_eq_false_iff_ne.mpr hslash
    have hl : ¬ b < 0x20 := UInt8.not_lt.mpr hlow
    simp only [List.singleton_append, Json.piece, hq, hs, hl, Bool.false_eq_true, if_false]
  | short he =>
    simp only [List.cons_append, List.nil_append, Json.piece, he]
    rfl
  | @unicode ds n hds hn =>
    have hlow : ¬ ((0xDC00 ≤ n && n ≤ 0xDFFF) = true) := by
      simp only [Bool.and_eq_true, decide_eq_true_eq]
      omega
    have hfar : (n < 0xD800 || 0xDFFF < n) = true := by simpa using hn
    have hescape : unicodeEscape (ds ++ rest) = .ok (utf8 n, rest) := by
      unfold unicodeEscape
      rw [hds.append rest]
      exact (if_neg hlow).trans (if_pos hfar)
    show (unicodeEscape (ds ++ rest)).map _ = _
    rw [hescape]
    rfl
  | @pair hs ls high low hhs hls hhigh hlow =>
    have hfirst : ¬ ((0xDC00 ≤ 0xD800 + high && 0xD800 + high ≤ 0xDFFF) = true) := by
      simp only [Bool.and_eq_true, decide_eq_true_eq]
      omega
    have hnear : ¬ ((0xD800 + high < 0xD800 || 0xDFFF < 0xD800 + high) = true) := by
      simp only [Bool.or_eq_true, decide_eq_true_eq]
      omega
    have hsecond : (0xDC00 ≤ 0xDC00 + low && 0xDC00 + low ≤ 0xDFFF) = true := by
      simp only [Bool.and_eq_true, decide_eq_true_eq]
      omega
    have hescape : unicodeEscape (hs ++ code '\\' :: code 'u' :: (ls ++ rest)) =
        .ok (utf8 (0x10000 + high * 0x400 + low), rest) := by
      unfold unicodeEscape
      rw [hhs.append]
      refine (if_neg hfirst).trans ((if_neg hnear).trans ?_)
      show (hexWord (ls ++ rest)).bind _ = _
      rw [hls.append rest]
      refine (if_pos hsecond).trans ?_
      rw [Nat.add_sub_cancel_left, Nat.add_sub_cancel_left]
    simp only [List.cons_append, List.append_assoc]
    show (unicodeEscape (hs ++ code '\\' :: code 'u' :: (ls ++ rest))).map _ = _
    rw [hescape]
    rfl

/-! ## Quoted texts -/

theorem StandsFor.length_pos {o p : Octets} (h : StandsFor o p) : 0 < o.length := by
  cases h <;> exact Nat.succ_pos _

/-- Pieces are read one by one. -/
theorem pieces_append {ps : List (Octets × Octets)} (hps : ∀ p ∈ ps, StandsFor p.1 p.2) {n : Bound}
    (hn : ps.length < n.length) (done rest : Octets) :
    pieces n done (ps.flatMap Prod.fst ++ code '"' :: rest) = .ok (done.reverse ++ ps.flatMap Prod.snd, rest) := by
  induction ps generalizing n done with
  | nil =>
    obtain ⟨b, n, rfl⟩ := List.exists_cons_of_length_pos hn
    simp only [List.flatMap_nil, List.append_nil]
    rfl
  | cons p ps ih =>
    obtain ⟨b, n, rfl⟩ := List.exists_cons_of_length_pos (Nat.zero_lt_of_lt hn)
    rw [List.flatMap_cons, List.append_assoc, pieces, (hps p List.mem_cons_self).piece]
    have hmore := ih (fun q hq => hps q (List.mem_cons_of_mem _ hq)) (n := n) (by simpa using hn) (p.2.reverse ++ done)
    simpa using hmore

theorem length_le_pieces {ps : List (Octets × Octets)} (hps : ∀ p ∈ ps, StandsFor p.1 p.2) :
    ps.length ≤ (ps.flatMap Prod.fst).length := by
  induction ps with
  | nil => exact Nat.le_refl _
  | cons p ps ih =>
    have hp := (hps p List.mem_cons_self).length_pos
    have := ih fun q hq => hps q (List.mem_cons_of_mem _ hq)
    rw [List.flatMap_cons, List.length_append, List.length_cons]
    omega

/-- A quoted text is its opening quote and what `unquote` takes. -/
theorem Quotes.begins {s : String} {o : Octets} (h : Quotes s o) :
    ∃ t, o = code '"' :: t ∧ ∀ rest, unquote (t ++ rest) = .ok (s, rest) := by
  obtain ⟨ps, hps, hs, rfl⟩ := h
  refine ⟨_, rfl, fun rest => ?_⟩
  have hn : ps.length < (boundOf (ps.flatMap Prod.fst ++ code '"' :: rest)).length := by
    have := length_le_pieces hps
    simp only [boundOf, List.length_cons, List.length_append]
    omega
  rw [List.append_assoc, List.singleton_append]
  simp only [unquote, pieces_append hps hn [] rest, List.reverse_nil, List.nil_append, hs, Octets.text?_ofText]

/-! ## Escaped octets -/

theorem utf8_control : ∀ n, n < 0x20 → utf8 n = [n.toUInt8] := by decide

theorem hexValue_hexDigit : ∀ n, n < 16 → hexValue (hexDigit n) = some n := by decide

/-- An octet that is escaped by its number. -/
theorem standsFor_control {b : UInt8} (hb : b < 0x20) :
    StandsFor [code '\\', code 'u', code '0', code '0', hexDigit (b.toNat / 16), hexDigit (b.toNat % 16)] [b] := by
  have hb' : b.toNat < 0x20 := UInt8.lt_iff_toNat_lt.mp hb
  have hhigh := hexValue_hexDigit (b.toNat / 16) (by omega)
  have hlow := hexValue_hexDigit (b.toNat % 16) (by omega)
  have hzero : hexValue (code '0') = some 0 := by decide
  have hword : HexWord [code '0', code '0', hexDigit (b.toNat / 16), hexDigit (b.toNat % 16)] b.toNat := by
    simp only [HexWord, hexWord, hzero, hhigh, hlow]
    congr 2
    omega
  have hstands := StandsFor.unicode hword (.inl (by omega))
  rw [utf8_control _ hb'] at hstands
  simpa using hstands

/-- What is written for an octet of a text stands for it. -/
theorem standsFor_escapeOctet (b : UInt8) : StandsFor (escapeOctet b) [b] := by
  unfold escapeOctet
  -- the seven octets with an escape of their own
  iterate 7
    split
    · next h => rw [beq_iff_eq.mp h]; exact .short rfl
  split
  · next h => exact standsFor_control h
  · next hquote hslash _ _ _ _ _ hcontrol =>
    exact .plain (UInt8.not_lt.mp hcontrol) (by simpa using hquote) (by simpa using hslash)

theorem quotes_quote (s : String) : Quotes s (quote s) := by
  refine ⟨(Octets.ofText s).map fun b => (escapeOctet b, [b]), ?_, ?_, ?_⟩
  · intro p hp
    obtain ⟨b, -, rfl⟩ := List.mem_map.mp hp
    exact standsFor_escapeOctet b
  · simp [List.flatMap_map]
  · simp [quote, List.flatMap_map]

end Courier.Json
