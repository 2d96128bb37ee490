import Courier.Proofs.Blanks
import Courier.Proofs.Recipients

/-!
# The kinds of targets

What is left of the texts of a request when they are trimmed and the blank ones are dropped (`Targets.entries`) is parted
by kind and nothing else: an entry of ASCII digits alone is an id, any other one is a group (`Targets.ofTexts_eq`). The
two parts keep the order of the entries (`Interleaved.filter`), and parting them again changes nothing
(`Targets.ofTexts_again`). The numbers that are looked up are those of the ids that fit in 64 bits with a sign
(`Targets.map_toInt_channelIds`).
-/

namespace Courier

open Exchange

/-- Two lists put together into a third one, each in its order. -/
inductive Interleaved {α : Type} : List α → List α → List α → Prop
  | nil : Interleaved [] [] []
  | left {xs ys zs : List α} (x : α) : Interleaved xs ys zs → Interleaved (x :: xs) ys (x :: zs)
  | right {xs ys zs : List α} (y : α) : Interleaved xs ys zs → Interleaved xs (y :: ys) (y :: zs)

/-- A list is put together from the elements that have a property and those that do not. -/
theorem Interleaved.filter {α : Type} (p : α → Bool) (xs : List α) :
    Interleaved (xs.filter p) (xs.filter fun x => !p x) xs := by
  induction xs with
  | nil => exact .nil
  | cons x xs ih =>
    by_cases hx : p x = true
    · simpa [hx] using ih.left x
    · simpa [hx] using ih.right x

namespace Decimal

/-- A digit is one of ten characters. -/
theorem isDigit_iff_mem {c : Char} : isDigit c = true ↔ c ∈ "0123456789".toList := by
  constructor
  · intro hc
    have htable : ∀ k < 10, Char.ofNat (0x30 + k) ∈ "0123456789".toList := by decide
    obtain ⟨hlow, hhigh⟩ := toNat_of_isDigit hc
    have hmem := htable (c.toNat - 0x30) (by omega)
    rwa [Nat.add_sub_of_le hlow, Char.ofNat_toNat] at hmem
  · have htable : "0123456789".toList.all isDigit = true := by decide
    exact List.all_eq_true.mp htable c

/-- Digits alone are read as the number that they denote, if it fits. -/
theorem int64?_of_all_isDigit {s : String} (hne : s ≠ "") (hs : s.toList.all isDigit = true) :
    int64? s = toInt64? (value s.toList) := by
  rw [int64?, signed?_of_all_isDigit hne hs, Option.bind_some]

end Decimal

namespace Targets

/-- The texts of a request, trimmed, without those that are blank. -/
def entries (raws : List String) : List String := (raws.map Text.trim).filter fun t => t ≠ ""

theorem mem_entries {raws : List String} {e : String} (h : e ∈ entries raws) : e ≠ "" ∧ Text.trim e = e := by
  obtain ⟨hmem, hne⟩ := List.mem_filter.mp h
  obtain ⟨raw, -, rfl⟩ := List.mem_map.mp hmem
  exact ⟨of_decide_eq_true hne, Text.trim_trim raw⟩

/-- Trimmed texts that are not blank are entries already. -/
theorem entries_of_trimmed {ts : List String} (h : ∀ t ∈ ts, t ≠ "" ∧ Text.trim t = t) : entries ts = ts := by
  have htrim : ts.map Text.trim = ts := (List.map_congr_left fun t ht => (h t ht).2).trans (List.map_id ts)
  rw [entries, htrim, List.filter_eq_self]
  intro t ht
  exact decide_eq_true (h t ht).1

/-- One more text adds to the targets what it names. -/
theorem ofTexts_cons (raw : String) (raws : List String) :
    ofTexts (raw :: raws) =
      match Target.ofText? raw with
      | none => ofTexts raws
      | some (.channel d) => ⟨d :: (ofTexts raws).ids, (ofTexts raws).groups⟩
      | some (.group g) => ⟨(ofTexts raws).ids, g :: (ofTexts raws).groups⟩ := by
  cases ht : Target.ofText? raw with
  | none => rw [ofTexts, ofTexts, List.filterMap_cons_none ht]
  | some t =>
    rw [ofTexts, List.filterMap_cons_some ht]
    cases t <;> rfl

/-- The ids are the entries of digits alone, and the groups are the other ones. -/
theorem ofTexts_eq (raws : List String) :
    ofTexts raws = ⟨(entries raws).filter Target.isNumeric, (entries raws).filter fun e => !Target.isNumeric e⟩ := by
  induction raws with
  | nil => rfl
  | cons raw raws ih =>
    rw [ofTexts_cons, ih]
    by_cases hblank : Text.trim raw = ""
    · simp [entries, Target.ofText?, hblank]
    · by_cases hnumeric : Target.isNumeric (Text.trim raw) = true
      · simp [entries, Target.ofText?, hblank, hnumeric]
      · simp [entries, Target.ofText?, hblank, hnumeric]

section

variable {raws : List String} {e : String}

theorem mem_ids_iff_entry : e ∈ (ofTexts raws).ids ↔ e ∈ entries raws ∧ Target.isNumeric e = true := by
  rw [ofTexts_eq, List.mem_filter]

theorem mem_groups_iff_entry : e ∈ (ofTexts raws).groups ↔ e ∈ entries raws ∧ ¬ Target.isNumeric e = true := by
  simp [ofTexts_eq]

end

theorem ofTexts_append (xs ys : List String) :
    ofTexts (xs ++ ys) =
      ⟨(ofTexts xs).ids ++ (ofTexts ys).ids, (ofTexts xs).groups ++ (ofTexts ys).groups⟩ := by
  simp [ofTexts]

/-- Ids and groups that are put one after the other are parted as before. -/
theorem ofTexts_again (raws : List String) :
    ofTexts ((ofTexts raws).ids ++ (ofTexts raws).groups) = ofTexts raws := by
  have htrimmed : ∀ t ∈ (ofTexts raws).ids ++ (ofTexts raws).groups, t ≠ "" ∧ Text.trim t = t := by
    intro t ht
    rcases List.mem_append.mp ht with ht | ht
    · exact mem_entries (mem_ids_iff_entry.mp ht).1
    · exact mem_entries (mem_groups_iff_entry.mp ht).1
  rw [ofTexts_eq (_ ++ _), entries_of_trimmed htrimmed, ofTexts_eq raws]
  simp [List.filter_filter]

/-! ## Ids -/

/-- The numbers of ids of digits alone: those that fit in 64 bits with a sign, in the order of the ids. -/
theorem map_toInt_channelIds {t : Targets} (ht : ∀ d ∈ t.ids, d ≠ "" ∧ d.toList.all Decimal.isDigit = true) :
    t.channelIds.map Int64.toInt =
      (t.ids.map fun d => (Decimal.value d.toList : Int)).filter (· ≤ 0x7FFFFFFFFFFFFFFF) := by
  obtain ⟨ids, groups⟩ := t
  unfold channelIds
  induction ids with
  | nil => rfl
  | cons d ids ih =>
    obtain ⟨hne, hd⟩ := ht d List.mem_cons_self
    have hmore := ih fun e he => ht e (List.mem_cons_of_mem _ he)
    have hread := Decimal.int64?_of_all_isDigit hne hd
    rw [List.map_cons]
    by_cases hfits : (Decimal.value d.toList : Int) ≤ 0x7FFFFFFFFFFFFFFF
    · have hsome : Decimal.int64? d = some (Int64.ofInt (Decimal.value d.toList)) := by
        rw [hread, Decimal.toInt64?, if_pos (by omega)]
      rw [List.filterMap_cons_some hsome, List.filter_cons, if_pos (decide_eq_true hfits), List.map_cons, hmore,
        Int64.toInt_ofInt_of_le (by omega) (by omega)]
    · have hnone : Decimal.int64? d = none := by
        rw [hread, Decimal.toInt64?, if_neg (by omega)]
      rw [List.filterMap_cons_none hnone, List.filter_cons, if_neg (by simpa using hfits), hmore]

/-- Zeros in front of an id do not count. -/
theorem int64?_zeros {d : String} (hne : d ≠ "") (hd : d.toList.all Decimal.isDigit = true) (k : Nat) :
    Decimal.int64? (String.ofList (List.replicate k '0') ++ d) = Decimal.int64? d := by
  have hall : (String.ofList (List.replicate k '0') ++ d).toList.all Decimal.isDigit = true := by
    simp [hd, Decimal.isDigit]
  rw [Decimal.int64?_of_all_isDigit (by simp [hne]) hall, Decimal.int64?_of_all_isDigit hne hd]
  simp [Decimal.value_zeros]

/-- The ids of channels are never negative. -/
theorem channelIds_nonneg (raws : List String) {k : Int64} (hk : k ∈ (ofTexts raws).channelIds) : 0 ≤ k.toInt := by
  obtain ⟨raw, -, -, -, hvalue⟩ := mem_channelIds_iff.mp hk
  omega

/-- How texts are parted into targets. -/
structure Parts (raws : List String) (t : Targets) : Prop where
  /-- The entries are put together from the ids and the groups, each in their order. -/
  together : Interleaved t.ids t.groups (entries raws)
  /-- An id is an entry whose characters are all ASCII digits. -/
  mem_ids : ∀ e, e ∈ t.ids ↔ e ∈ entries raws ∧ ∀ c ∈ e.toList, c ∈ "0123456789".toList
  /-- A group is an entry with some other character. -/
  mem_groups : ∀ e, e ∈ t.groups ↔ e ∈ entries raws ∧ ∃ c ∈ e.toList, c ∉ "0123456789".toList
  again : ofTexts (t.ids ++ t.groups) = t
  append : ∀ more, ofTexts (raws ++ more) = ⟨t.ids ++ (ofTexts more).ids, t.groups ++ (ofTexts more).groups⟩
  /-- The numbers of the ids that fit in 64 bits with a sign, in their order and with their repetitions. -/
  numbers : t.channelIds.map Int64.toInt =
    (t.ids.map fun d => (Decimal.value d.toList : Int)).filter (· ≤ 0x7FFFFFFFFFFFFFFF)
  zeros : ∀ d ∈ t.ids, ∀ k, Decimal.int64? (String.ofList (List.replicate k '0') ++ d) = Decimal.int64? d
  /-- No other number is looked up. -/
  lookedUp : ∀ es a, (Resolution.resolve t).Unfolds es a → ∀ ids, Call.channelsWithIds ids ∈ es.map Exchange.call →
    ids = t.channelIds ∧ ∀ k ∈ ids, 0 ≤ k.toInt

end Targets

/-- **How the texts of a request are parted.** The entries, which are the texts trimmed and without blank ones, are put
together from the ids and the groups, each in their order. An entry is an id if all its characters are ASCII digits, and
a group if some character is not. Parting ids and groups again changes nothing, and the parts of two lists together are
those of each, one after the other. The numbers of the ids are kept in their order, and with their repetitions, if they
fit in 64 bits with a sign, however many zeros stand in front; a resolution never looks up any other number. -/
theorem Targets.parted (raws : List String) : Parts raws (ofTexts raws) := by
  have hnumeric : ∀ e : String, Target.isNumeric e = true ↔ ∀ c ∈ e.toList, c ∈ "0123456789".toList := by
    intro e
    simp only [Target.isNumeric, List.all_eq_true, Decimal.isDigit_iff_mem]
  have hids : ∀ d ∈ (ofTexts raws).ids, d ≠ "" ∧ d.toList.all Decimal.isDigit = true := by
    intro d hd
    obtain ⟨hentry, hdigits⟩ := mem_ids_iff_entry.mp hd
    exact ⟨(mem_entries hentry).1, hdigits⟩
  constructor
  case together =>
    rw [ofTexts_eq raws]
    exact .filter _ _
  case mem_ids =>
    intro e
    rw [← hnumeric]
    exact mem_ids_iff_entry
  case mem_groups =>
    intro e
    rw [mem_groups_iff_entry, hnumeric]
    simp
  case again => exact ofTexts_again raws
  case append => exact ofTexts_append raws
  case numbers => exact map_toInt_channelIds hids
  case zeros => exact fun d hd => int64?_zeros (hids d hd).1 (hids d hd).2
  case lookedUp =>
    intro es a h ids hmem
    obtain ⟨hcalls, -⟩ := Resolution.resolve_unfolds_iff.mp h
    obtain ⟨rfl, -⟩ := Resolution.mem_lookups_ids.mp (hcalls.subset hmem)
    exact ⟨rfl, fun k => channelIds_nonneg raws⟩

/-- A sign, a digit that is not ASCII and a number that does not fit make no id of a channel. -/
example :
    Targets.ofTexts [" 12a", "٣", " 007 ", "", "-4", "99999999999999999999"] =
      ⟨["007", "99999999999999999999"], ["12a", "٣", "-4"]⟩ ∧
    (Targets.ofTexts [" 007 ", "99999999999999999999"]).channelIds = [7] := by
  decide

end Courier
