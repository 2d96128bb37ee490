import Courier.Json.Skip
import Courier.Proofs.Json.Taking

/-!
# Reading longer texts

What a reader has brought from the front of a text it brings from every longer text too, unless it has read the text to
its very end, where a number might have gone on (`Steadfast`). This is kept by putting readers one after another, so the
proofs follow the readers, which are written with `>>=` and a first octet wherever they are not. Loops and skipped
values are bounded by the length of the text, so they are compared at two bounds (`Upholds`).
-/

namespace Courier.Json

variable {α β σ : Type}

/-! ## Two readers, one after another -/

/-- What one reader brings from the front of a text, with octets left over, another one brings from every longer
text. -/
def Upholds (r r' : Reader α) : Prop :=
  ∀ s a t, r s = .ok (a, t) → t <:+ s ∧ (t ≠ [] → ∀ more, r' (s ++ more) = .ok (a, t ++ more))

/-- A reader that brings the same from longer texts. -/
abbrev Steadfast (r : Reader α) : Prop := Upholds r r

theorem ok_of_bind {r : Reader α} {f : α → Reader β} {s u : Octets} {b : β} (h : (r >>= f) s = .ok (b, u)) :
    ∃ a t, r s = .ok (a, t) ∧ f a t = .ok (b, u) := by
  cases hr : r s with
  | error p =>
    simp only [bind, StateT.bind, hr, Except.bind] at h
    cases h
  | ok at' =>
    rw [bind_of_ok hr] at h
    exact ⟨_, _, rfl, h⟩

theorem Upholds.bind {r r' : Reader α} {f f' : α → Reader β} (hr : Upholds r r') (hf : ∀ a, Upholds (f a) (f' a)) :
    Upholds (r >>= f) (r' >>= f') := by
  intro s b u h
  obtain ⟨a, t, hra, hfa⟩ := ok_of_bind h
  obtain ⟨hts, hrmore⟩ := hr s a t hra
  obtain ⟨hut, hfmore⟩ := hf a t b u hfa
  refine ⟨hut.trans hts, fun hne more => ?_⟩
  have ht : t ≠ [] := by
    rintro rfl
    exact hne (List.suffix_nil.mp hut)
  rw [bind_of_ok (hrmore ht more)]
  exact hfmore hne more

theorem Upholds.map {r r' : Reader α} (hr : Upholds r r') (f : α → β) : Upholds (f <$> r) (f <$> r') := by
  intro s b u h
  rw [map_eq_pure_bind] at h
  obtain ⟨a, t, hra, hfa⟩ := ok_of_bind h
  cases hfa
  obtain ⟨hts, hrmore⟩ := hr s a u hra
  exact ⟨hts, fun hne more => map_of_ok (hrmore hne more) f⟩

theorem Upholds.ite {c : Prop} [Decidable c] {r r' q q' : Reader α} (hr : Upholds r r') (hq : Upholds q q') :
    Upholds (if c then r else q) (if c then r' else q') := by
  split
  · exact hr
  · exact hq

theorem steadfast_pure (a : α) : Steadfast (pure a : Reader α) := by
  intro s b t h
  cases h
  exact ⟨List.suffix_refl _, fun _ _ => rfl⟩

theorem steadfast_fail (p : Problem) : Steadfast (fail p : Reader α) := nofun

/-! ## Single tokens -/

theorem skipBlanks_append {s : Octets} (h : skipBlanks s ≠ []) (more : Octets) :
    skipBlanks (s ++ more) = skipBlanks s ++ more := by
  rw [skipBlanks, List.dropWhile_append, if_neg (by simpa [skipBlanks] using h), ← skipBlanks]

theorem steadfast_next : Steadfast next := by
  intro s b t h
  unfold next at h
  split at h
  · cases h
  · next c r hs =>
    cases h
    refine ⟨hs ▸ List.dropWhile_suffix _, fun _ more => ?_⟩
    have hmore := skipBlanks_append (s := s) (by rw [hs]; exact List.cons_ne_nil _ _) more
    rw [hs] at hmore
    simp only [next, hmore, List.cons_append]

theorem steadfast_advance : Steadfast advance := by
  intro s b t h
  cases h
  refine ⟨List.tail_suffix s, fun hne more => ?_⟩
  cases s with
  | nil => exact absurd rfl hne
  | cons c s => rfl

theorem steadfast_expect (b : UInt8) : Steadfast (expect b) :=
  steadfast_next.bind fun _ => steadfast_advance.ite (steadfast_fail _)

theorem steadfast_hasElement (first : Bool) : Steadfast (hasElement first) :=
  steadfast_next.bind fun _ => (steadfast_pure _).ite ((steadfast_pure _).ite
    ((steadfast_advance.bind fun _ => steadfast_next.bind fun _ => (steadfast_fail _).ite (steadfast_pure _)).ite
      (steadfast_fail _)))

theorem steadfast_hasMember (first : Bool) : Steadfast (hasMember first) :=
  steadfast_next.bind fun _ => (steadfast_pure _).ite (((steadfast_pure _).ite (steadfast_fail _)).ite
    ((steadfast_advance.bind fun _ => steadfast_next.bind fun _ => (steadfast_pure _).ite (steadfast_fail _)).ite
      (steadfast_fail _)))

/-! ## Loops -/

/-- Elements that are taken within a bound are taken within every greater one. -/
theorem Upholds.elements {item item' : Reader α} (hitem : Upholds item item') {n n' : Bound}
    (hn : n.length ≤ n'.length) (first : Bool) (done : List α) :
    Upholds (elements item n first done) (elements item' n' first done) := by
  induction n generalizing n' first done with
  | nil => exact nofun
  | cons b n ih =>
    obtain ⟨b', n', rfl⟩ := List.exists_cons_of_length_pos (Nat.lt_of_lt_of_le (Nat.succ_pos _) hn)
    exact (steadfast_hasElement first).bind fun _ =>
      (hitem.bind fun a => ih (Nat.le_of_succ_le_succ hn) false (a :: done)).ite (steadfast_pure _)

/-- Members that are taken within a bound are taken within every greater one. -/
theorem Upholds.members {member member' : σ → Reader σ} (hmember : ∀ acc, Upholds (member acc) (member' acc))
    {n n' : Bound} (hn : n.length ≤ n'.length) (first : Bool) (acc : σ) :
    Upholds (members member n first acc) (members member' n' first acc) := by
  induction n generalizing n' first acc with
  | nil => exact nofun
  | cons b n ih =>
    obtain ⟨b', n', rfl⟩ := List.exists_cons_of_length_pos (Nat.lt_of_lt_of_le (Nat.succ_pos _) hn)
    exact (steadfast_hasMember first).bind fun _ =>
      ((hmember acc).bind fun acc => ih (Nat.le_of_succ_le_succ hn) false acc).ite (steadfast_pure _)

/-- A reader that takes its bound from the text is steadfast when greater bounds uphold it. -/
theorem steadfast_of_bounds {r : Bound → Reader α} (h : ∀ n n', n.length ≤ n'.length → Upholds (r n) (r n')) :
    Steadfast fun s => r (boundOf s) s := by
  intro s a t hs
  refine ⟨(h _ _ (Nat.le_refl _) s a t hs).1, fun hne more => ?_⟩
  have hle : (boundOf s).length ≤ (boundOf (s ++ more)).length := by
    simp only [boundOf, List.length_cons, List.length_append]
    omega
  exact (h _ _ hle s a t hs).2 hne more

theorem Upholds.allElements {item : Reader α} (hitem : Steadfast item) : Steadfast (allElements item) :=
  steadfast_of_bounds fun _ _ hn => hitem.elements hn true []

theorem steadfast_allMembers {member : σ → Reader σ} (hmember : ∀ acc, Steadfast (member acc)) (start : σ) :
    Steadfast (allMembers member start) :=
  steadfast_of_bounds fun _ _ hn => Upholds.members hmember hn true start

/-! ## Octets without blanks before them -/

theorem ite_read (c : Prop) [Decidable c] (r q : Reader α) (s : Octets) :
    (if c then r else q) s = if c then r s else q s := by
  split <;> rfl

theorem map_read (r : Reader α) (f : α → β) (s : Octets) : (r s).map (fun (a, t) => (f a, t)) = (f <$> r) s := by
  simp only [Functor.map, StateT.map, bind, Except.bind]
  cases r s <;> rfl

/-- A reader that looks at the next octet first. -/
theorem Upholds.of_head {r r' : Reader α} {f f' : UInt8 → Reader α} (hnil : ∀ a t, r [] = .ok (a, t) → t = [])
    (hr : ∀ b s, r (b :: s) = f b (b :: s)) (hr' : ∀ b s, r' (b :: s) = f' b (b :: s))
    (hf : ∀ b, Upholds (f b) (f' b)) : Upholds r r' := by
  intro s a t h
  cases s with
  | nil =>
    obtain rfl := hnil a t h
    exact ⟨List.suffix_refl _, fun hne => absurd rfl hne⟩
  | cons b s =>
    rw [hr] at h
    obtain ⟨hts, hmore⟩ := hf b _ a t h
    refine ⟨hts, fun hne more => ?_⟩
    rw [List.cons_append, hr']
    exact hmore hne more

theorem steadfast_of_head {r : Reader α} {f : UInt8 → Reader α} (hnil : ∀ a t, r [] = .ok (a, t) → t = [])
    (hr : ∀ b s, r (b :: s) = f b (b :: s)) (hf : ∀ b, Steadfast (f b)) : Steadfast r :=
  .of_head hnil hr hr hf

theorem steadfast_literal (ks : Octets) : Steadfast (literal ks) := by
  induction ks with
  | nil => exact steadfast_pure ()
  | cons k ks ih =>
    refine steadfast_of_head (f := fun b => if b == k then do advance; literal ks else fail .malformed) nofun
      (fun b s => ?_) fun _ => (steadfast_advance.bind fun _ => ih).ite (steadfast_fail _)
    simp only [literal, ite_read]
    rfl

theorem steadfast_exactly (k : UInt8) : Steadfast (exactly k) := by
  refine steadfast_of_head (f := fun b => if b == k then advance else fail .malformed) nofun (fun b s => ?_)
    fun _ => steadfast_advance.ite (steadfast_fail _)
  simp only [exactly, ite_read]
  rfl

/-! ## Quoted texts -/

theorem steadfast_hexWord : Steadfast hexWord := by
  intro s n t h
  unfold hexWord at h
  split at h
  · next a b c d s =>
    split at h
    · next ha hb hc hd =>
      cases h
      refine ⟨⟨[a, b, c, d], rfl⟩, fun _ more => ?_⟩
      simp only [List.cons_append, hexWord, ha, hb, hc, hd]
    · cases h
  · cases h

theorem steadfast_unicodeEscape : Steadfast unicodeEscape := by
  have heq : unicodeEscape = (do
      let n ← hexWord
      if 0xDC00 ≤ n && n ≤ 0xDFFF then fail .malformed
      else if n < 0xD800 || 0xDFFF < n then pure (utf8 n)
      else do
        exactly (code '\\')
        exactly (code 'u')
        let m ← hexWord
        if 0xDC00 ≤ m && m ≤ 0xDFFF then pure (utf8 (0x10000 + (n - 0xD800) * 0x400 + (m - 0xDC00)))
        else fail .malformed : Reader Octets) := by
    funext s
    simp only [unicodeEscape, bind, StateT.bind, Except.bind, ite_read]
    rfl
  rw [heq]
  exact steadfast_hexWord.bind fun _ => (steadfast_fail _).ite ((steadfast_pure _).ite
    ((steadfast_exactly _).bind fun _ => (steadfast_exactly _).bind fun _ => steadfast_hexWord.bind fun _ =>
      (steadfast_pure _).ite (steadfast_fail _)))

/-- The piece of a quoted text after a backslash. -/
def escaped : Reader (Option Octets)
  | [] => .error .truncated
  | e :: s =>
    match shortEscape e with
    | some b => .ok (some [b], s)
    | none => if e == code 'u' then (unicodeEscape s).map fun (o, s) => (some o, s) else .error .malformed

theorem steadfast_escaped : Steadfast escaped := by
  refine steadfast_of_head (f := fun e => do
    advance
    match shortEscape e with
    | some b => pure (some [b])
    | none => if e == code 'u' then some <$> unicodeEscape else fail .malformed) nofun (fun e s => ?_)
    fun e => steadfast_advance.bind fun _ => ?_
  · show escaped (e :: s) = (match shortEscape e with
      | some b => pure (some [b])
      | none => if e == code 'u' then some <$> unicodeEscape else fail .malformed : Reader (Option Octets)) s
    cases hshort : shortEscape e with
    | some b => simp only [escaped, hshort]; rfl
    | none =>
      simp only [escaped, hshort, map_read unicodeEscape some, ite_read]
      rfl
  · split
    · exact steadfast_pure _
    · exact (steadfast_unicodeEscape.map some).ite (steadfast_fail _)

theorem steadfast_piece : Steadfast piece := by
  refine steadfast_of_head (f := fun b => do
    advance
    if b == code '"' then pure none
    else if b == code '\\' then escaped
    else if b < 0x20 then fail .malformed
    else pure (some [b])) nofun (fun b s => ?_)
    fun b => steadfast_advance.bind fun _ => (steadfast_pure _).ite (steadfast_escaped.ite
      ((steadfast_fail _).ite (steadfast_pure _)))
  show piece (b :: s) = (if b == code '"' then pure none
    else if b == code '\\' then escaped
    else if b < 0x20 then fail .malformed
    else pure (some [b]) : Reader (Option Octets)) s
  simp only [piece, ite_read]
  rfl

/-- Pieces that are read within a bound are read within every greater one. -/
theorem upholds_pieces {n n' : Bound} (hn : n.length ≤ n'.length) (done : Octets) :
    Upholds (pieces n done) (pieces n' done) := by
  have heq : ∀ (b : UInt8) (n : Bound) (done : Octets), pieces (b :: n) done = (do
      match ← piece with
      | none => pure done.reverse
      | some o => pieces n (o.reverse ++ done) : Reader Octets) := by
    intro b n done
    funext s
    simp only [pieces, bind, StateT.bind, Except.bind]
    cases piece s with
    | error p => rfl
    | ok ot =>
      obtain ⟨o, t⟩ := ot
      cases o <;> rfl
  induction n generalizing n' done with
  | nil => exact nofun
  | cons b n ih =>
    obtain ⟨b', n', rfl⟩ := List.exists_cons_of_length_pos (Nat.lt_of_lt_of_le (Nat.succ_pos _) hn)
    rw [heq, heq]
    refine steadfast_piece.bind fun o => ?_
    cases o with
    | none => exact steadfast_pure _
    | some o => exact ih (Nat.le_of_succ_le_succ hn) _

theorem steadfast_unquote : Steadfast unquote := by
  have heq : unquote = (do
      let o ← (fun s => pieces (boundOf s) [] s : Reader Octets)
      (Octets.text? o).elim (fail .malformed) pure : Reader String) := by
    funext s
    simp only [unquote, bind, StateT.bind, Except.bind]
    cases pieces (boundOf s) [] s with
    | error p => rfl
    | ok ot =>
      simp only []
      cases Octets.text? ot.1 <;> rfl
  rw [heq]
  refine (steadfast_of_bounds fun _ _ hn => upholds_pieces hn []).bind fun o => ?_
  cases Octets.text? o with
  | some t => exact steadfast_pure t
  | none => exact steadfast_fail _

/-! ## Numbers -/

/-- Takes the digits at the front of a text. -/
def takeDigits : Reader Octets := fun s => .ok (leadingDigits s, afterDigits s)

theorem steadfast_takeDigits : Steadfast takeDigits := by
  intro s ds t h
  cases h
  refine ⟨List.dropWhile_suffix _, fun hne more => ?_⟩
  have hlength : (leadingDigits s).length ≠ s.length := by
    have hsplit : (leadingDigits s ++ afterDigits s).length = s.length :=
      congrArg List.length List.takeWhile_append_dropWhile
    have hpos := List.length_pos_iff.mpr hne
    rw [List.length_append] at hsplit
    omega
  have hlead : leadingDigits (s ++ more) = leadingDigits s := by
    rw [leadingDigits, List.takeWhile_append, ← leadingDigits, if_neg hlength]
  have hafter : afterDigits (s ++ more) = afterDigits s ++ more := by
    rw [afterDigits, List.dropWhile_append, ← afterDigits, if_neg (by simpa using hne)]
  rw [takeDigits, hlead, hafter]

theorem steadfast_fractionOf (m : Nat) (e : Int) : Steadfast (fractionOf m e) := by
  have heq : fractionOf m e =
      (if isTooLarge m e then fail .malformed else pure (.fractional m e) : Reader Numeral) := by
    funext s
    simp only [fractionOf, ite_read]
    rfl
  rw [heq]
  exact (steadfast_fail _).ite (steadfast_pure _)

/-- Takes the sign at the front of an exponent, if there is one. -/
def takeSign : Reader Bool := fun s => .ok (exponentSign s)

theorem steadfast_takeSign : Steadfast takeSign := by
  refine steadfast_of_head (f := fun b =>
    if b == code '-' then do advance; pure true
    else if b == code '+' then do advance; pure false
    else pure false) ?_ (fun b s => ?_) fun b => (steadfast_advance.bind fun _ => steadfast_pure _).ite
      ((steadfast_advance.bind fun _ => steadfast_pure _).ite (steadfast_pure _))
  · rintro a t ⟨⟩
    rfl
  · simp only [takeSign, exponentSign, ite_read]
    split
    · rfl
    · split <;> rfl

/-- The digits of an exponent whose sign is known. -/
def exponentDigits (m : Nat) (e : Int) (negative : Bool) : Reader Numeral
  | [] => .error .truncated
  | b :: s =>
    if isDigit b then
      match exponentValue (leadingDigits (b :: s)) with
      | some x => fractionOf m (if negative then e - x else e + x) (afterDigits (b :: s))
      | none => if m != 0 && !negative then .error .malformed else .ok (.fractional 0 0, afterDigits (b :: s))
    else .error .malformed

theorem steadfast_exponentDigits (m : Nat) (e : Int) (negative : Bool) : Steadfast (exponentDigits m e negative) := by
  refine steadfast_of_head (f := fun b =>
    if isDigit b then do
      match exponentValue (← takeDigits) with
      | some x => fractionOf m (if negative then e - x else e + x)
      | none => if m != 0 && !negative then fail .malformed else pure (.fractional 0 0)
    else fail .malformed) nofun (fun b s => ?_)
    fun b => (steadfast_takeDigits.bind fun ds => ?_).ite (steadfast_fail _)
  · simp only [exponentDigits, ite_read, bind, StateT.bind, Except.bind, takeDigits]
    cases exponentValue (leadingDigits (b :: s)) with
    | some x => rfl
    | none =>
      simp only [ite_read]
      rfl
  · split
    · exact steadfast_fractionOf _ _
    · exact (steadfast_fail _).ite (steadfast_pure _)

theorem steadfast_exponent (m : Nat) (e : Int) : Steadfast (exponent m e) := by
  have heq : exponent m e = (do exponentDigits m e (← takeSign) : Reader Numeral) := by
    funext s
    simp only [exponent, bind, StateT.bind, Except.bind, takeSign]
    cases (exponentSign s).2 <;> rfl
  rw [heq]
  exact steadfast_takeSign.bind fun _ => steadfast_exponentDigits m e _

/-- What may follow the digits of a number: an exponent. -/
def exponentOrEnd (m : Nat) (e : Int) : Reader Numeral
  | b :: r => if isExponentMark b then exponent m e r else fractionOf m e (b :: r)
  | [] => fractionOf m e []

theorem steadfast_exponentOrEnd (m : Nat) (e : Int) : Steadfast (exponentOrEnd m e) := by
  refine steadfast_of_head (f := fun b => if isExponentMark b then do advance; exponent m e else fractionOf m e)
    (fun a t h => ?_) (fun b s => ?_)
    fun b => (steadfast_advance.bind fun _ => steadfast_exponent m e).ite (steadfast_fractionOf m e)
  · exact List.suffix_nil.mp (steadfast_fractionOf m e [] a t h).1
  · simp only [exponentOrEnd, ite_read]
    rfl

theorem steadfast_fraction (m : Nat) (e : Int) : Steadfast (fraction m e) := by
  have heq : fraction m e = (do
      let ds ← takeDigits
      if ds = [] then fun rest => .error (if rest = [] then .truncated else .malformed)
      else exponentOrEnd (absorb m ds).1 (e - (ds.length - (absorb m ds).2 : Nat)) : Reader Numeral) := by
    funext s
    simp only [fraction, bind, StateT.bind, Except.bind, takeDigits, ite_read]
    split
    · rfl
    · cases afterDigits s <;> rfl
  rw [heq]
  exact steadfast_takeDigits.bind fun ds => Upholds.ite nofun (steadfast_exponentOrEnd _ _)

/-- A number of some digits with neither a point nor an exponent. -/
def plainNumeral (negative : Bool) (ds : Octets) : Reader Numeral :=
  if (absorb 0 ds).2 ≠ 0 then fractionOf (absorb 0 ds).1 (absorb 0 ds).2
  else if !negative then pure (.whole (absorb 0 ds).1)
  else if (absorb 0 ds).1 = 0 || 0x8000000000000000 < (absorb 0 ds).1 then pure (.fractional (absorb 0 ds).1 0)
  else pure (.whole (-((absorb 0 ds).1 : Int)))

theorem steadfast_plainNumeral (negative : Bool) (ds : Octets) : Steadfast (plainNumeral negative ds) :=
  (steadfast_fractionOf _ _).ite ((steadfast_pure _).ite ((steadfast_pure _).ite (steadfast_pure _)))

theorem steadfast_numeralOf (negative : Bool) (ds : Octets) : Steadfast (numeralOf negative ds) := by
  refine steadfast_of_head (f := fun b =>
    if b == code '.' then do advance; fraction (absorb 0 ds).1 (absorb 0 ds).2
    else if isExponentMark b then do advance; exponent (absorb 0 ds).1 (absorb 0 ds).2
    else plainNumeral negative ds) (fun a t h => ?_) (fun b s => ?_)
    fun b => (steadfast_advance.bind fun _ => steadfast_fraction _ _).ite
      ((steadfast_advance.bind fun _ => steadfast_exponent _ _).ite (steadfast_plainNumeral negative ds))
  · refine List.suffix_nil.mp (steadfast_plainNumeral negative ds [] a t ?_).1
    simp only [plainNumeral, ite_read]
    exact h
  · simp only [numeralOf, plainNumeral, ite_read]
    rfl

/-- What may follow a zero at the front of a number: no digit. -/
def afterZero (negative : Bool) (zero : UInt8) : Reader Numeral
  | c :: s => if isDigit c then .error .malformed else numeralOf negative [zero] (c :: s)
  | [] => numeralOf negative [zero] []

theorem steadfast_afterZero (negative : Bool) (zero : UInt8) : Steadfast (afterZero negative zero) := by
  refine steadfast_of_head (f := fun c => if isDigit c then fail .malformed else numeralOf negative [zero])
    (fun a t h => ?_) (fun c s => ?_) fun c => (steadfast_fail _).ite (steadfast_numeralOf negative [zero])
  · exact List.suffix_nil.mp (steadfast_numeralOf negative [zero] [] a t h).1
  · simp only [afterZero, ite_read]
    rfl

theorem steadfast_unsignedNumeral (negative : Bool) : Steadfast (unsignedNumeral negative) := by
  refine steadfast_of_head (f := fun b =>
    if b == code '0' then do advance; afterZero negative b
    else if isDigit b then do numeralOf negative (← takeDigits)
    else fail .malformed) nofun (fun b s => ?_)
    fun b => (steadfast_advance.bind fun _ => steadfast_afterZero negative b).ite
      ((steadfast_takeDigits.bind fun ds => steadfast_numeralOf negative ds).ite (steadfast_fail _))
  simp only [unsignedNumeral, ite_read]
  split
  · cases s <;> rfl
  · rfl

theorem steadfast_numeral : Steadfast numeral := by
  refine steadfast_of_head (f := fun b =>
    if b == code '-' then do advance; unsignedNumeral true else unsignedNumeral false) nofun (fun b s => ?_)
    fun b => (steadfast_advance.bind fun _ => steadfast_unsignedNumeral true).ite (steadfast_unsignedNumeral false)
  simp only [numeral, ite_read]
  rfl

/-! ## Skipped values -/

theorem steadfast_skipExponent : Steadfast skipExponent := by
  have hdigits : Steadfast (fun
      | b :: r => if isDigit b then .ok ((), afterDigits r) else .error .malformed
      | [] => .error .malformed : Reader Unit) := by
    refine steadfast_of_head (f := fun b =>
      if isDigit b then do advance; discard takeDigits else fail .malformed) nofun (fun b s => ?_)
      fun b => (steadfast_advance.bind fun _ => steadfast_takeDigits.map _).ite (steadfast_fail _)
    simp only [ite_read]
    rfl
  exact steadfast_takeSign.bind fun _ => hdigits

/-- Skips what may follow the digits of a number: an exponent. -/
def skipExponentOrEnd : Reader Unit
  | c :: t => if isExponentMark c then skipExponent t else .ok ((), c :: t)
  | [] => .ok ((), [])

theorem steadfast_skipExponentOrEnd : Steadfast skipExponentOrEnd := by
  refine steadfast_of_head (f := fun c => if isExponentMark c then do advance; skipExponent else pure ()) ?_
    (fun c s => ?_) fun c => (steadfast_advance.bind fun _ => steadfast_skipExponent).ite (steadfast_pure _)
  · rintro a t ⟨⟩
    rfl
  · simp only [skipExponentOrEnd, ite_read]
    rfl

theorem steadfast_skipFraction : Steadfast skipFraction := by
  refine steadfast_of_head (f := fun b =>
    if b == code '.' then do
      advance
      if (← takeDigits) = [] then fail .malformed else skipExponentOrEnd
    else if isExponentMark b then do advance; skipExponent
    else pure ()) ?_ (fun b s => ?_)
    fun b => (steadfast_advance.bind fun _ => steadfast_takeDigits.bind fun _ =>
      (steadfast_fail _).ite steadfast_skipExponentOrEnd).ite
        ((steadfast_advance.bind fun _ => steadfast_skipExponent).ite (steadfast_pure _))
  · rintro a t ⟨⟩
    rfl
  · simp only [skipFraction, ite_read]
    split
    · show _ = (if leadingDigits s = [] then fail .malformed else skipExponentOrEnd : Reader Unit) (afterDigits s)
      simp only [ite_read, skipExponentOrEnd]
      rfl
    · rfl

/-- Skips what may follow a zero at the front of a number: no digit. -/
def skipAfterZero : Reader Unit
  | c :: s => if isDigit c then .error .malformed else skipFraction (c :: s)
  | [] => .ok ((), [])

theorem steadfast_skipAfterZero : Steadfast skipAfterZero := by
  refine steadfast_of_head (f := fun c => if isDigit c then fail .malformed else skipFraction) ?_ (fun c s => ?_)
    fun c => (steadfast_fail _).ite steadfast_skipFraction
  · rintro a t ⟨⟩
    rfl
  · simp only [skipAfterZero, ite_read]
    rfl

theorem steadfast_skipUnsigned : Steadfast skipUnsigned := by
  refine steadfast_of_head (f := fun b =>
    if b == code '0' then do advance; skipAfterZero
    else if isDigit b then do advance; discard takeDigits; skipFraction
    else fail .malformed) nofun (fun b s => ?_)
    fun b => (steadfast_advance.bind fun _ => steadfast_skipAfterZero).ite
      ((steadfast_advance.bind fun _ => (steadfast_takeDigits.map _).bind fun _ => steadfast_skipFraction).ite
        (steadfast_fail _))
  simp only [skipUnsigned, ite_read]
  split
  · cases s <;> rfl
  · rfl

theorem steadfast_skipNumeral : Steadfast skipNumeral := by
  refine steadfast_of_head (f := fun b => if b == code '-' then do advance; skipUnsigned else skipUnsigned) nofun
    (fun b s => ?_) fun b => (steadfast_advance.bind fun _ => steadfast_skipUnsigned).ite steadfast_skipUnsigned
  simp only [skipNumeral, ite_read]
  rfl

/-- Skips the rest of a quoted text after a backslash. -/
def skipEscaped (n : Bound) : Reader Unit
  | [] => .error .truncated
  | e :: s =>
    if (shortEscape e).isSome then skipPieces n s
    else if e == code 'u' then
      match hexWord s with
      | .error p => .error p
      | .ok (_, s) => skipPieces n s
    else .error .malformed

theorem upholds_skipEscaped {n n' : Bound} (h : Upholds (skipPieces n) (skipPieces n')) :
    Upholds (skipEscaped n) (skipEscaped n') := by
  have hhead : ∀ (n : Bound) (e : UInt8) (s : Octets), skipEscaped n (e :: s) =
      (if (shortEscape e).isSome then do advance; skipPieces n
      else if e == code 'u' then do
        advance
        let _ ← hexWord
        skipPieces n
      else fail .malformed : Reader Unit) (e :: s) := by
    intro n e s
    simp only [skipEscaped, ite_read]
    split
    · rfl
    · split
      · show _ = (hexWord >>= fun _ => skipPieces n : Reader Unit) s
        simp only [bind, StateT.bind, Except.bind]
        cases hexWord s <;> rfl
      · rfl
  exact .of_head nofun (hhead n) (hhead n') fun e => (steadfast_advance.bind fun _ => h).ite
    ((steadfast_advance.bind fun _ => steadfast_hexWord.bind fun _ => h).ite (steadfast_fail _))

/-- Pieces that are skipped within a bound are skipped within every greater one. -/
theorem upholds_skipPieces {n n' : Bound} (hn : n.length ≤ n'.length) :
    Upholds (skipPieces n) (skipPieces n') := by
  have hhead : ∀ (k : UInt8) (n : Bound) (b : UInt8) (s : Octets), skipPieces (k :: n) (b :: s) =
      (if b == code '"' then advance
      else if b == code '\\' then do advance; skipEscaped n
      else if b < 0x20 then fail .malformed
      else do advance; skipPieces n : Reader Unit) (b :: s) := by
    intro k n b s
    simp only [skipPieces, ite_read]
    split
    · rfl
    · split
      · cases s <;> rfl
      · rfl
  induction n generalizing n' with
  | nil => exact nofun
  | cons k n ih =>
    obtain ⟨k', n', rfl⟩ := List.exists_cons_of_length_pos (Nat.lt_of_lt_of_le (Nat.succ_pos _) hn)
    have hpieces := ih (Nat.le_of_succ_le_succ hn)
    exact .of_head nofun (hhead k n) (hhead k' n') fun b => steadfast_advance.ite
      ((steadfast_advance.bind fun _ => upholds_skipEscaped hpieces).ite
        ((steadfast_fail _).ite (steadfast_advance.bind fun _ => hpieces)))

theorem steadfast_skipQuoted : Steadfast skipQuoted := steadfast_of_bounds fun _ _ hn => upholds_skipPieces hn

/-- A value that is skipped within a bound is skipped within every greater one. -/
theorem upholds_skipValue {n n' : Bound} (hn : n.length ≤ n'.length) : Upholds (skipValue n) (skipValue n') := by
  induction n generalizing n' with
  | nil => exact nofun
  | cons b n ih =>
    obtain ⟨b', n', rfl⟩ := List.exists_cons_of_length_pos (Nat.lt_of_lt_of_le (Nat.succ_pos _) hn)
    have hle : n.length ≤ n'.length := Nat.le_of_succ_le_succ hn
    have hword : ∀ ks, Steadfast (do advance; literal ks) := fun ks =>
      steadfast_advance.bind fun _ => steadfast_literal ks
    have hmember : Upholds (do advance; skipQuoted; expect (code ':'); skipValue n)
        (do advance; skipQuoted; expect (code ':'); skipValue n') :=
      steadfast_advance.bind fun _ => steadfast_skipQuoted.bind fun _ => (steadfast_expect _).bind fun _ => ih hle
    exact steadfast_next.bind fun b => (hword _).ite ((hword _).ite ((hword _).ite (steadfast_skipNumeral.ite
      ((steadfast_advance.bind fun _ => steadfast_skipQuoted).ite
        ((steadfast_advance.bind fun _ => (((ih hle).elements hle true []).map _).bind fun _ => steadfast_expect _).ite
          ((steadfast_advance.bind fun _ => (Upholds.members (fun _ => hmember) hle true ()).bind fun _ =>
            steadfast_expect _).ite (steadfast_fail _)))))))

theorem steadfast_skip : Steadfast skip := steadfast_of_bounds fun _ _ hn => upholds_skipValue hn

end Courier.Json
