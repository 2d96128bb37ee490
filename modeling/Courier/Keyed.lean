/-!
# Keyed collections

Values by 64-bit keys, held in ascending order of their keys. A later value for a key takes the place of an earlier one
(`get?_insert_self`, `get?_insert_of_ne`), so a collection made of a list has the last value that the list has for a key
(`get?_ofList`), one made of pairs that are in ascending order already has these pairs (`entries_ofList`), and each
collection is made of its own pairs in any order (`ofList_of_perm`).
-/

namespace Courier

/-- Values by 64-bit keys. -/
structure Keyed (α : Type) where
  /-- The pairs of a key and its value. -/
  entries : List (Int64 × α)
  /-- Every key is below those after it. -/
  ascending : entries.Pairwise fun a b => a.1 < b.1

namespace Keyed

variable {α β : Type}

/-- No values. -/
def empty : Keyed α := ⟨[], .nil⟩

instance : Inhabited (Keyed α) := ⟨empty⟩

/-- Puts a pair at its place among ascending pairs. -/
def place (k : Int64) (a : α) : List (Int64 × α) → List (Int64 × α)
  | [] => [(k, a)]
  | (j, b) :: es => if k < j then (k, a) :: (j, b) :: es else if k = j then (k, a) :: es else (j, b) :: place k a es

theorem mem_place {k : Int64} {a : α} {e : Int64 × α} {es : List (Int64 × α)} (h : e ∈ place k a es) :
    e = (k, a) ∨ e ∈ es := by
  induction es with
  | nil => simpa [place] using h
  | cons f es ih =>
    obtain ⟨j, b⟩ := f
    simp only [place] at h
    split at h
    · simpa using h
    · split at h
      · simp only [List.mem_cons] at h ⊢; exact h.imp_right .inr
      · simp only [List.mem_cons] at h ⊢
        rcases h with h | h
        · exact .inr (.inl h)
        · exact (ih h).imp_right .inr

theorem lt_of_not_lt_of_ne {k j : Int64} (h : ¬ k < j) (hne : k ≠ j) : j < k := by
  rw [Int64.lt_iff_toInt_lt] at h ⊢
  have : k.toInt ≠ j.toInt := fun e => hne (Int64.toInt_inj.mp e)
  omega

theorem place_ascending {k : Int64} {a : α} {es : List (Int64 × α)} (h : es.Pairwise fun a b => a.1 < b.1) :
    (place k a es).Pairwise fun a b => a.1 < b.1 := by
  induction es with
  | nil => simp [place]
  | cons f es ih =>
    obtain ⟨j, b⟩ := f
    rw [List.pairwise_cons] at h
    simp only [place]
    split
    · rename_i hk
      refine List.pairwise_cons.mpr ⟨fun e he => ?_, List.pairwise_cons.mpr h⟩
      rcases List.mem_cons.mp he with he | he
      · subst he; exact hk
      · exact Int64.lt_trans hk (h.1 e he)
    · split
      · rename_i hk; subst hk; exact List.pairwise_cons.mpr h
      · rename_i hlt hne
        refine List.pairwise_cons.mpr ⟨fun e he => ?_, ih h.2⟩
        rcases mem_place he with he | he
        · subst he; exact lt_of_not_lt_of_ne hlt hne
        · exact h.1 e he

/-- A pair whose key is above all others is placed at the end. -/
theorem place_last {k : Int64} {a : α} {es : List (Int64 × α)} (h : ∀ e ∈ es, e.1 < k) :
    place k a es = es ++ [(k, a)] := by
  induction es with
  | nil => rfl
  | cons e es ih =>
    obtain ⟨j, b⟩ := e
    have hlt : j < k := h (j, b) List.mem_cons_self
    have hnot : ¬ k < j := by
      rw [Int64.lt_iff_toInt_lt] at hlt ⊢
      omega
    have hne : k ≠ j := by
      rintro rfl
      exact hnot hlt
    rw [place, if_neg hnot, if_neg hne, ih fun f hf => h f (List.mem_cons_of_mem _ hf), List.cons_append]

/-- The collection with a value put at a key. -/
def insert (m : Keyed α) (k : Int64) (a : α) : Keyed α := ⟨place k a m.entries, place_ascending m.ascending⟩

/-- The collection of a list of pairs, the later ones winning. -/
def ofList (es : List (Int64 × α)) : Keyed α := es.foldl (fun m (k, a) => m.insert k a) empty

/-- The value at a key. -/
def get? (m : Keyed α) (k : Int64) : Option α := m.entries.lookup k

/-- The keys in ascending order. -/
def keys (m : Keyed α) : List Int64 := m.entries.map Prod.fst

/-- The values in the order of their keys. -/
def values (m : Keyed α) : List α := m.entries.map Prod.snd

/-- The number of keys. -/
def size (m : Keyed α) : Nat := m.entries.length

/-- Collections with the same pairs are equal. -/
theorem ext_entries {m n : Keyed α} (h : m.entries = n.entries) : m = n := by
  cases m; cases n; cases h; rfl

/-- Applies a function to every value. -/
def map (f : α → β) (m : Keyed α) : Keyed β :=
  ⟨m.entries.map fun (k, a) => (k, f a), by
    rw [List.pairwise_map]; exact m.ascending.imp fun h => h⟩

theorem map_map_of_inverse {f : α → β} {g : β → α} (h : ∀ a, g (f a) = a) (m : Keyed α) :
    (m.map f).map g = m := by
  apply ext_entries
  simp [map, Function.comp_def, h]

theorem lookup_place_self (k : Int64) (a : α) (es : List (Int64 × α)) : (place k a es).lookup k = some a := by
  induction es with
  | nil => simp [place]
  | cons f es ih =>
    obtain ⟨j, b⟩ := f
    simp only [place]
    split
    · simp
    · split
      · simp
      · rename_i hne
        have : (k == j) = false := by simpa using hne
        rw [List.lookup_cons, this]; exact ih

theorem lookup_place_of_ne {k l : Int64} (h : l ≠ k) (a : α) (es : List (Int64 × α)) :
    (place k a es).lookup l = es.lookup l := by
  have hl : (l == k) = false := by simpa using h
  induction es with
  | nil => simp [place, List.lookup_cons, hl]
  | cons f es ih =>
    obtain ⟨j, b⟩ := f
    simp only [place]
    split
    · rw [List.lookup_cons, hl]
    · split
      · rename_i hk; subst hk
        rw [List.lookup_cons, List.lookup_cons, hl]
      · rw [List.lookup_cons, List.lookup_cons, ih]

theorem get?_insert_self (m : Keyed α) (k : Int64) (a : α) : (m.insert k a).get? k = some a :=
  lookup_place_self k a m.entries

theorem get?_insert_of_ne (m : Keyed α) {k l : Int64} (h : l ≠ k) (a : α) : (m.insert k a).get? l = m.get? l :=
  lookup_place_of_ne h a m.entries

/-- The pairs of a collection are its keys with their values. -/
theorem mem_entries_iff (m : Keyed α) {k : Int64} {a : α} : (k, a) ∈ m.entries ↔ m.get? k = some a := by
  obtain ⟨es, hes⟩ := m
  simp only [get?]
  induction es with
  | nil => simp
  | cons e es ih =>
    obtain ⟨j, b⟩ := e
    obtain ⟨hj, hrest⟩ := List.pairwise_cons.mp hes
    by_cases hk : k = j
    · subst hk
      have hnot : (k, a) ∉ es := fun h => Int64.lt_irrefl (hj (k, a) h)
      simp [hnot, eq_comm]
    · have hbeq : (k == j) = false := by simpa using hk
      rw [List.lookup_cons, hbeq, ← ih hrest]
      simp [hk]

/-- The collection of ascending pairs has these pairs. -/
theorem entries_ofList {es : List (Int64 × α)} (h : es.Pairwise fun a b => a.1 < b.1) : (ofList es).entries = es := by
  have hfold : ∀ (es : List (Int64 × α)) (m : Keyed α), (m.entries ++ es).Pairwise (fun a b => a.1 < b.1) →
      (es.foldl (fun m (k, a) => m.insert k a) m).entries = m.entries ++ es := by
    intro es
    induction es with
    | nil => exact fun m _ => (List.append_nil _).symm
    | cons e es ih =>
      intro m hm
      obtain ⟨k, a⟩ := e
      have hinsert : (m.insert k a).entries = m.entries ++ [(k, a)] :=
        place_last fun e he => (List.pairwise_append.mp hm).2.2 e he _ List.mem_cons_self
      have hstep := ih (m.insert k a) (by rw [hinsert]; simpa using hm)
      rw [List.foldl_cons, hstep, hinsert, List.append_assoc]
      rfl
  exact hfold es empty h

theorem get?_foldl_insert (es : List (Int64 × α)) (m : Keyed α) (k : Int64) :
    (es.foldl (fun m (j, b) => m.insert j b) m).get? k = (es.reverse.lookup k).or (m.get? k) := by
  induction es generalizing m with
  | nil => simp
  | cons e es ih =>
    obtain ⟨j, b⟩ := e
    rw [List.foldl_cons, ih, List.reverse_cons, List.lookup_append, Option.or_assoc]
    congr 1
    by_cases hk : k = j
    · subst hk
      simp [get?_insert_self]
    · have hbeq : (k == j) = false := by simpa using hk
      simp [get?_insert_of_ne _ hk, List.lookup_cons, hbeq]

/-- The value at a key of the collection of a list is the last one that the list has for it. -/
theorem get?_ofList (es : List (Int64 × α)) (k : Int64) : (ofList es).get? k = es.reverse.lookup k := by
  rw [ofList, get?_foldl_insert, empty, get?, List.lookup_nil, Option.or_none]

theorem mem_of_mem_ofList {es : List (Int64 × α)} {e : Int64 × α} (h : e ∈ (ofList es).entries) : e ∈ es := by
  obtain ⟨k, a⟩ := e
  rw [mem_entries_iff, get?_ofList, List.lookup_eq_some_iff] at h
  obtain ⟨l₁, l₂, he, -⟩ := h
  have hmem : (k, a) ∈ es.reverse := by simp [he]
  exact List.mem_reverse.mp hmem

theorem perm_place {k : Int64} {a : α} {es : List (Int64 × α)} (h : ∀ e ∈ es, e.1 ≠ k) :
    (place k a es).Perm ((k, a) :: es) := by
  induction es with
  | nil => exact .refl _
  | cons e es ih =>
    obtain ⟨j, b⟩ := e
    have hne : k ≠ j := fun hk => h (j, b) List.mem_cons_self hk.symm
    have hmore := ih fun f hf => h f (List.mem_cons_of_mem _ hf)
    simp only [place, if_neg hne]
    split
    · exact .refl _
    · exact (hmore.cons (j, b)).trans (.swap (k, a) (j, b) es)

theorem perm_foldl_insert {es : List (Int64 × α)} {m : Keyed α}
    (h : (m.entries ++ es).Pairwise fun d e => d.1 ≠ e.1) :
    (es.foldl (fun m (k, a) => m.insert k a) m).entries.Perm (m.entries ++ es) := by
  induction es generalizing m with
  | nil => simp
  | cons e es ih =>
    obtain ⟨k, a⟩ := e
    have hplace : (m.insert k a).entries.Perm ((k, a) :: m.entries) :=
      perm_place fun e he => (List.pairwise_append.mp h).2.2 e he (k, a) List.mem_cons_self
    have hall : ((m.insert k a).entries ++ es).Perm (m.entries ++ (k, a) :: es) :=
      (hplace.append_right es).trans List.perm_middle.symm
    exact (ih (h.perm hall.symm fun hne => hne.symm)).trans hall

/-- A collection is made of its entries in any order. -/
theorem ofList_of_perm {es : List (Int64 × α)} {m : Keyed α} (h : es.Perm m.entries) : ofList es = m := by
  have hne : ∀ {k j : Int64}, k < j → k ≠ j := by
    rintro k j hlt rfl
    exact Int64.lt_irrefl hlt
  have hkeys : es.Pairwise fun d e => d.1 ≠ e.1 := (m.ascending.imp hne).perm h.symm fun hne => hne.symm
  have hperm : (ofList es).entries.Perm m.entries := (perm_foldl_insert (m := empty) hkeys).trans h
  refine ext_entries (hperm.eq_of_pairwise ?_ (ofList es).ascending m.ascending)
  intro d e _ _ hlt hgt
  exact absurd (Int64.lt_trans hlt hgt) Int64.lt_irrefl

end Keyed

end Courier
