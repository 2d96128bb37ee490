import Courier.Named
import Courier.Text.Octets

/-!
# A cache in memory

Markers by keys, each with the moment at which it expires. A marker is there until that moment, not at it. An expired
marker stays stored until somebody asks for it.
-/

namespace Courier.Memory

/-- A marker and the moment at which it expires. -/
structure Entry where
  marker : Octets
  expires : Nat
  deriving DecidableEq, Repr

/-- Entries by their keys. -/
abbrev Cache := Named Entry

namespace Cache

/-- Keeps a marker for so many milliseconds from now on. -/
def keep (c : Cache) (now : Nat) (key : String) (marker : Octets) (lifetime : Nat) : Cache :=
  Named.put c key ⟨marker, now + lifetime⟩

/-- The marker of a key. An expired one is removed. -/
def read (c : Cache) (now : Nat) (key : String) : Option Octets × Cache :=
  match c.lookup key with
  | some e => if e.expires ≤ now then (none, Named.remove c key) else (some e.marker, c)
  | none => (none, c)

/-- Whether a stored entry is still alive; none when nothing is stored. -/
def alive? (c : Cache) (now : Nat) (key : String) : Option Bool := (c.lookup key).map fun e => now < e.expires

/-- The marker that is alive under a key. -/
def live? (c : Cache) (now : Nat) (key : String) : Option Octets := (c.read now key).1

theorem live?_eq (c : Cache) (now : Nat) (key : String) :
    c.live? now key = ((c.lookup key).filter fun e => now < e.expires).map Entry.marker := by
  unfold live? read
  cases c.lookup key with
  | none => rfl
  | some e => by_cases h : e.expires ≤ now <;> simp [h, Option.filter]

theorem live?_keep_self (c : Cache) (s now : Nat) (key : String) (marker : Octets) (lifetime : Nat) :
    (c.keep s key marker lifetime).live? now key = if now < s + lifetime then some marker else none := by
  rw [live?_eq, keep, Named.lookup_put_self]
  by_cases h : now < s + lifetime <;> simp [Option.filter, h]

theorem live?_keep_of_ne {key other : String} (h : other ≠ key) (c : Cache) (s now : Nat) (marker : Octets)
    (lifetime : Nat) : (c.keep s key marker lifetime).live? now other = c.live? now other := by
  rw [live?_eq, live?_eq, keep, Named.lookup_put_of_ne h]

/-- Reading changes no answer from that moment on. -/
theorem live?_read {s now : Nat} (h : s ≤ now) (c : Cache) (key other : String) :
    (c.read s key).2.live? now other = c.live? now other := by
  unfold read
  cases hl : c.lookup key with
  | none => rfl
  | some e =>
    by_cases he : e.expires ≤ s
    · simp only [he, if_true]
      by_cases ho : other = key
      · subst ho
        have hn : ¬ now < e.expires := by omega
        simp [live?_eq, Named.lookup_remove_self, hl, Option.filter, hn]
      · rw [live?_eq, live?_eq, Named.lookup_remove_of_ne ho]
    · simp only [he, if_false]

end Cache

end Courier.Memory
