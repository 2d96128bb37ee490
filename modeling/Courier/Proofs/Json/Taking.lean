import Courier.Json.Numeral

/-!
# Readers that take texts

`Reads r o x` says what a reader makes of a text at the front of any longer one, provided that what follows does not go on
with a number (`Closes`): it takes the text and brings a value (`Takes`), or it stops with a mismatch. What comes of one
reader after another is what comes of the first, handed to the second (`bind_of_outcome`).
-/

namespace Courier.Json

variable {α β σ : Type}

/-- What may follow a value: nothing, or an octet with which no number goes on. -/
def Closes : Octets → Prop
  | [] => True
  | b :: _ => isDigit b = false ∧ b ≠ code '.' ∧ isExponentMark b = false

/-- A reader takes a text from the front of any longer one, and brings a value. -/
def Takes (r : Reader α) (o : Octets) (a : α) : Prop := ∀ rest, Closes rest → r (o ++ rest) = .ok (a, rest)

/-- What comes of reading: a value and what is left, or a mismatch. -/
def outcome (x : Option α) (rest : Octets) : Except Problem (α × Octets) :=
  match x with
  | some a => .ok (a, rest)
  | none => .error .mismatch

/-- A reader takes a text from the front of any longer one and brings a value, or it stops with a mismatch there. -/
def Reads (r : Reader α) (o : Octets) (x : Option α) : Prop := ∀ rest, Closes rest → r (o ++ rest) = outcome x rest

/-- Octets that may stand between tokens. -/
def Blanks (w : Octets) : Prop := ∀ b ∈ w, isBlank b = true

/-- A reader that passes over the blanks in front of what it takes. -/
def IgnoresBlanks (r : Reader α) : Prop := ∀ w s, Blanks w → r (w ++ s) = r s

/-- An octet with which a value can begin in a list. -/
def OpensValue (b : UInt8) : Prop := isBlank b = false ∧ b ≠ code ']'

/-- A text that begins as a value in a list can. -/
def Opens : Octets → Prop
  | [] => False
  | b :: _ => OpensValue b

/-! ## What may follow a value -/

theorem closes_comma (s : Octets) : Closes (code ',' :: s) := ⟨by decide, by decide, by decide⟩

theorem closes_bracket (s : Octets) : Closes (code ']' :: s) := ⟨by decide, by decide, by decide⟩

theorem closes_brace (s : Octets) : Closes (code '}' :: s) := ⟨by decide, by decide, by decide⟩

theorem closes_quote (s : Octets) : Closes (code '"' :: s) := ⟨by decide, by decide, by decide⟩

theorem Closes.after_blanks {s : Octets} (hs : Closes s) {w : Octets} (hw : Blanks w) : Closes (w ++ s) := by
  cases w with
  | nil => exact hs
  | cons b w =>
    have hb : isBlank b = true := hw b List.mem_cons_self
    simp only [isBlank, Bool.or_eq_true, beq_iff_eq] at hb
    rcases hb with ((rfl | rfl) | rfl) | rfl <;> exact ⟨by decide, by decide, by decide⟩

theorem Blanks.closes {w : Octets} (hw : Blanks w) : Closes w := by
  have hcloses := Closes.after_blanks (s := []) trivial hw
  rwa [List.append_nil] at hcloses

/-! ## One token after another -/

theorem bind_of_ok {r : Reader α} {s t : Octets} {a : α} (h : r s = .ok (a, t)) (f : α → Reader β) :
    (r >>= f) s = f a t := by
  simp only [bind, StateT.bind, h, Except.bind]

theorem map_of_ok {r : Reader α} {s t : Octets} {a : α} (h : r s = .ok (a, t)) (f : α → β) :
    (f <$> r) s = .ok (f a, t) := by
  simp only [Functor.map, StateT.map, bind, Except.bind, h]
  rfl

theorem bind_of_error {r : Reader α} {s : Octets} {p : Problem} (h : r s = .error p) (f : α → Reader β) :
    (r >>= f) s = .error p := by
  simp only [bind, StateT.bind, h, Except.bind]

/-- What comes of one reader after another. -/
theorem bind_of_outcome {r : Reader α} {s t u : Octets} {x : Option α} (h : r s = outcome x t) {f : α → Reader β}
    {y : α → Option β} (hf : ∀ a, x = some a → f a t = outcome (y a) u) : (r >>= f) s = outcome (x.bind y) u := by
  cases x with
  | none => exact bind_of_error h f
  | some a => exact (bind_of_ok h f).trans (hf a rfl)

/-- What comes of a reader whose value is changed. -/
theorem map_of_outcome {r : Reader α} {s t : Octets} {x : Option α} (h : r s = outcome x t) (f : α → β) :
    (do let a ← r; pure (f a)) s = outcome (x.map f) t := by
  cases x with
  | none => exact bind_of_error h _
  | some a => exact bind_of_ok h _

theorem skipBlanks_cons {b : UInt8} (hb : isBlank b = false) (s : Octets) : skipBlanks (b :: s) = b :: s := by
  simp [skipBlanks, hb]

theorem next_cons {b : UInt8} (hb : isBlank b = false) (s : Octets) : next (b :: s) = .ok (b, b :: s) := by
  simp only [next, skipBlanks_cons hb]

theorem advance_cons (b : UInt8) (s : Octets) : advance (b :: s) = .ok ((), s) := rfl

theorem expect_cons {b : UInt8} (hb : isBlank b = false) (s : Octets) : expect b (b :: s) = .ok ((), s) := by
  unfold expect
  rw [bind_of_ok (next_cons hb s), beq_self_eq_true]
  rfl

theorem literal_append (ks s : Octets) : literal ks (ks ++ s) = .ok ((), s) := by
  induction ks with
  | nil => rfl
  | cons k ks ih => simpa [literal] using ih

/-! ## Blanks -/

theorem Blanks.nil : Blanks [] := nofun

theorem skipBlanks_past {w : Octets} (hw : Blanks w) (s : Octets) : skipBlanks (w ++ s) = skipBlanks s :=
  List.dropWhile_append_of_pos hw

theorem ignoresBlanks_next : IgnoresBlanks next := by
  intro w s hw
  simp only [next, skipBlanks_past hw]

theorem IgnoresBlanks.bind {r : Reader α} (hr : IgnoresBlanks r) (f : α → Reader β) : IgnoresBlanks (r >>= f) := by
  intro w s hw
  simp only [Bind.bind, StateT.bind, hr w s hw]

theorem ignoresBlanks_expect (b : UInt8) : IgnoresBlanks (expect b) := ignoresBlanks_next.bind _

theorem ignoresBlanks_hasElement (first : Bool) : IgnoresBlanks (hasElement first) := ignoresBlanks_next.bind _

theorem ignoresBlanks_hasMember (first : Bool) : IgnoresBlanks (hasMember first) := ignoresBlanks_next.bind _

end Courier.Json
