/-!
# Values by names

Values by texts, as a list of pairs in which the first pair with a name counts. Putting a value at a name touches no
other name (`lookup_put_self`, `lookup_put_of_ne`), and neither does removing one.
-/

namespace Courier

/-- Values by names. -/
abbrev Named (α : Type) := List (String × α)

namespace Named

variable {α : Type}

/-- The values without the one at a name. -/
def remove (m : Named α) (name : String) : Named α := m.filter fun e => e.1 != name

/-- The values with the one at a name replaced. -/
def put (m : Named α) (name : String) (a : α) : Named α := (name, a) :: m.remove name

theorem lookup_remove_self (m : Named α) (name : String) : (m.remove name).lookup name = none := by
  induction m with
  | nil => rfl
  | cons e m ih =>
    obtain ⟨k, a⟩ := e
    by_cases h : k = name
    · subst h; simpa [remove] using ih
    · have hk : (name == k) = false := by simpa using fun he => h he.symm
      simpa [remove, h, List.lookup_cons, hk] using ih

theorem lookup_remove_of_ne {name other : String} (h : other ≠ name) (m : Named α) :
    (m.remove name).lookup other = m.lookup other := by
  induction m with
  | nil => rfl
  | cons e m ih =>
    obtain ⟨k, a⟩ := e
    by_cases hk : k = name
    · subst hk
      have ho : (other == k) = false := by simpa using h
      rw [List.lookup_cons, ho]
      simpa [remove] using ih
    · have hr : remove ((k, a) :: m) name = (k, a) :: remove m name := by simp [remove, hk]
      rw [hr, List.lookup_cons, List.lookup_cons, ih]

theorem lookup_put_self (m : Named α) (name : String) (a : α) : (m.put name a).lookup name = some a := by
  simp [put]

theorem lookup_put_of_ne {name other : String} (h : other ≠ name) (m : Named α) (a : α) :
    (m.put name a).lookup other = m.lookup other := by
  have ho : (other == name) = false := by simpa using h
  rw [put, List.lookup_cons, ho, lookup_remove_of_ne h]

end Named

end Courier
