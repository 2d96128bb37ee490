import Courier.Json.Tree
import Courier.Proofs.Json.Shapes

/-!
# Reading trees back, and the trees of values

Every JSON value whose numbers are whole is read back from its text (`parse_write`). The canonical text of a value of a
shape is the text of a tree (`Shape.write_tree`), so any reader of JSON sees in it what the tree holds, in the order of
the text (`Shape.parse_write`).
-/

namespace Courier

namespace Json

mutual

/-- The numbers in a value are whole numbers of at most 64 bits. -/
def Whole : Json → Prop
  | number l => ∃ n : Int, -0x8000000000000000 ≤ n ∧ n ≤ wordMax ∧ l = writeInt n
  | list vs => WholeItems vs
  | object ms => WholeMembers ms
  | _ => True

def WholeItems : List Json → Prop
  | [] => True
  | v :: vs => Whole v ∧ WholeItems vs

def WholeMembers : List (String × Json) → Prop
  | [] => True
  | (_, v) :: ms => Whole v ∧ WholeMembers ms

end

theorem writeItems_eq : ∀ vs : List Json, writeItems vs = vs.map write
  | [] => rfl
  | v :: vs => by rw [writeItems, List.map_cons, writeItems_eq vs]

theorem writeMembers_eq : ∀ ms : List (String × Json),
    writeMembers ms = ms.map fun m => quote m.1 ++ code ':' :: write m.2
  | [] => rfl
  | (k, v) :: ms => by rw [writeMembers, List.map_cons, writeMembers_eq ms]

/-- A value is read back within every bound that its text keeps. -/
def ReadsBack (j : Json) : Prop :=
  Opens (write j) ∧ ∀ n : Bound, (write j).length < n.length → Takes (readValue n) (write j) j

/-- The octets that a reader takes are the text that it takes. -/
theorem takes_taken {r : Reader Unit} {o : Octets} (h : Takes r o ()) : Takes (taken r) o o := by
  intro rest hrest
  have hlength : (o ++ rest).length - rest.length = o.length := by
    rw [List.length_append]
    omega
  simp only [taken, h rest hrest, hlength, List.take_left]

/-! ## Single values -/

theorem readsBack_null : ReadsBack null := by
  refine ⟨by rw [write]; exact ⟨rfl, by decide⟩, fun n hn rest _ => ?_⟩
  rw [write] at hn ⊢
  obtain ⟨b, n, rfl⟩ := List.exists_cons_of_length_pos (Nat.zero_lt_of_lt hn)
  have hliteral := literal_append [code 'u', code 'l', code 'l'] rest
  show readValue (b :: n) (code 'n' :: ([code 'u', code 'l', code 'l'] ++ rest)) = _
  rw [readValue, bind_of_ok (next_cons rfl _), if_pos (beq_self_eq_true _), bind_of_ok (advance_cons _ _)]
  exact (bind_of_ok hliteral _).trans rfl

theorem readsBack_bool (v : Bool) : ReadsBack (bool v) := by
  refine ⟨by rw [write]; cases v <;> exact ⟨rfl, by decide⟩, fun n hn rest _ => ?_⟩
  rw [write] at hn ⊢
  obtain ⟨b, n, rfl⟩ := List.exists_cons_of_length_pos (Nat.zero_lt_of_lt hn)
  cases v with
  | false =>
    have hliteral := literal_append [code 'a', code 'l', code 's', code 'e'] rest
    show readValue (b :: n) (code 'f' :: ([code 'a', code 'l', code 's', code 'e'] ++ rest)) = _
    rw [readValue, bind_of_ok (next_cons rfl _), if_neg (by decide), if_neg (by decide), if_pos (beq_self_eq_true _),
      bind_of_ok (advance_cons _ _)]
    exact (bind_of_ok hliteral _).trans rfl
  | true =>
    have hliteral := literal_append [code 'r', code 'u', code 'e'] rest
    show readValue (b :: n) (code 't' :: ([code 'r', code 'u', code 'e'] ++ rest)) = _
    rw [readValue, bind_of_ok (next_cons rfl _), if_neg (by decide), if_pos (beq_self_eq_true _),
      bind_of_ok (advance_cons _ _)]
    exact (bind_of_ok hliteral _).trans rfl

theorem readsBack_number {i : Int} (hlow : -0x8000000000000000 ≤ i) (hhigh : i ≤ wordMax) :
    ReadsBack (number (writeInt i)) := by
  obtain ⟨c, o, ho, hc⟩ := writeInt_cons i
  refine ⟨by rw [write, ho]; exact (opensValue_of_beginsNumeral hc).1, fun n hn rest hrest => ?_⟩
  have hnumeral : Takes (discard numeral) (writeInt i) () := by
    intro rest hrest
    exact map_of_ok (numeral_writeInt hlow hhigh rest hrest) _
  have htaken := takes_taken hnumeral rest hrest
  rw [write] at hn ⊢
  obtain ⟨b, n, rfl⟩ := List.exists_cons_of_length_pos (Nat.zero_lt_of_lt hn)
  have hn' := beq_eq_false_iff_ne.mpr (ne_of_beginsNumeral hc (c := code 'n') (by decide))
  have ht := beq_eq_false_iff_ne.mpr (ne_of_beginsNumeral hc (c := code 't') (by decide))
  have hf := beq_eq_false_iff_ne.mpr (ne_of_beginsNumeral hc (c := code 'f') (by decide))
  have hnext : next (writeInt i ++ rest) = .ok (c, writeInt i ++ rest) := by
    rw [ho]
    exact next_cons (opensValue_of_beginsNumeral hc).1.1 _
  rw [readValue, bind_of_ok hnext]
  simp only [hn', ht, hf, hc, Bool.false_eq_true, if_false, if_true]
  exact (bind_of_ok htaken _).trans rfl

theorem readsBack_text (s : String) : ReadsBack (text s) := by
  obtain ⟨t, ht, hread⟩ := (quotes_quote s).begins
  refine ⟨by rw [write, ht]; exact ⟨rfl, by decide⟩, fun n hn rest _ => ?_⟩
  rw [write, ht] at hn ⊢
  obtain ⟨b, n, rfl⟩ := List.exists_cons_of_length_pos (Nat.zero_lt_of_lt hn)
  rw [List.cons_append, readValue, bind_of_ok (next_cons rfl _), if_neg (by decide), if_neg (by decide),
    if_neg (by decide), if_neg (by decide), if_pos (beq_self_eq_true _), bind_of_ok (advance_cons _ _)]
  exact (bind_of_ok (hread rest) _).trans rfl

/-! ## Values with parts -/

theorem readsBack_list {vs : List Json} (h : ∀ v ∈ vs, ReadsBack v) : ReadsBack (list vs) := by
  have hwrite : (list vs).write = listText [] ((vs.map write).map Spaced.bare) := by
    rw [write, writeItems_eq, listText, row_bare]
  refine ⟨by rw [hwrite]; exact ⟨rfl, by decide⟩, fun n hn rest _ => ?_⟩
  rw [hwrite] at hn ⊢
  obtain ⟨b, n, rfl⟩ := List.exists_cons_of_length_pos (Nat.zero_lt_of_lt hn)
  obtain ⟨hcount, hlength⟩ := bound_of_row hn
  have hitems : List.Forall₂ (fun x t => Opens t.text ∧ Reads (readValue n) t.text x) (vs.map some)
      ((vs.map write).map Spaced.bare) := by
    rw [List.map_map, List.forall₂_map_left_iff, List.forall₂_map_right_iff, List.forall₂_same]
    intro v hv
    have hle := hlength (.bare (write v)) (List.mem_map_of_mem (List.mem_map_of_mem hv))
    rw [Spaced.octets_bare] at hle
    exact ⟨(h v hv).1, (h v hv).2 n hle⟩
  have helements := elements_row hitems hcount true .nil [] rest
  rw [mapM_id_some] at helements
  rw [row_append, readValue, bind_of_ok (next_cons rfl _), if_neg (by decide), if_neg (by decide), if_neg (by decide),
    if_neg (by decide), if_neg (by decide), if_pos (beq_self_eq_true _), bind_of_ok (advance_cons _ _),
    bind_of_ok helements, bind_of_ok (expect_cons rfl _)]
  rfl

/-- The members of an object are put one before another. -/
theorem feeds_members {n : Bound} {ms : List (String × Json)} (h : ∀ m ∈ ms, Takes (readValue n) (write m.2) m.2)
    (done : List (String × Json)) :
    Feeds (fun ms => do
      advance
      let name ← unquote
      expect (code ':')
      return (name, ← readValue n) :: ms) done ((ms.map fun m => quote m.1 ++ code ':' :: write m.2).map Spaced.bare)
      (some (ms.reverse ++ done)) := by
  induction ms generalizing done with
  | nil => exact .done done
  | cons m ms ih =>
    have hmore := ih (fun m hm => h m (List.mem_cons_of_mem _ hm)) (m :: done)
    obtain ⟨t, ht, hread⟩ := (quotes_quote m.1).begins
    rw [List.reverse_cons, List.append_assoc, List.singleton_append]
    refine .more ⟨_, congrArg (· ++ _) ht⟩ ?_ hmore
    intro rest hrest
    show (advance >>= _) (quote m.1 ++ code ':' :: write m.2 ++ rest) = _
    rw [ht, List.append_assoc, List.cons_append, bind_of_ok (advance_cons _ _), bind_of_ok (hread _), List.cons_append,
      bind_of_ok (expect_cons rfl _), bind_of_ok (h m List.mem_cons_self rest hrest)]
    rfl

theorem readsBack_object {ms : List (String × Json)} (h : ∀ m ∈ ms, ReadsBack m.2) : ReadsBack (object ms) := by
  have hwrite : (object ms).write =
      row (code '{') (code '}') [] ((ms.map fun m => quote m.1 ++ code ':' :: write m.2).map Spaced.bare) := by
    rw [write, writeMembers_eq, row_bare]
  refine ⟨by rw [hwrite]; exact ⟨rfl, by decide⟩, fun n hn rest _ => ?_⟩
  rw [hwrite] at hn ⊢
  obtain ⟨b, n, rfl⟩ := List.exists_cons_of_length_pos (Nat.zero_lt_of_lt hn)
  obtain ⟨hcount, hlength⟩ := bound_of_row hn
  have hms : ∀ m ∈ ms, Takes (readValue n) (write m.2) m.2 := by
    intro m hm
    have hle := hlength (.bare (quote m.1 ++ code ':' :: write m.2))
      (List.mem_map_of_mem (List.mem_map_of_mem (f := fun m => quote m.1 ++ code ':' :: write m.2) hm))
    simp only [Spaced.octets_bare, List.length_append, List.length_cons] at hle
    exact (h m hm).2 n (by omega)
  have hmembers := members_row (feeds_members hms []) hcount true .nil rest
  rw [row_append, readValue, bind_of_ok (next_cons rfl _), if_neg (by decide), if_neg (by decide), if_neg (by decide),
    if_neg (by decide), if_neg (by decide), if_neg (by decide), if_pos (beq_self_eq_true _),
    bind_of_ok (advance_cons _ _), bind_of_ok hmembers, bind_of_ok (expect_cons rfl _)]
  simp only [List.append_nil, List.reverse_reverse]
  rfl

mutual

/-- A value whose numbers are whole is read back. -/
theorem readsBack : ∀ {j : Json}, Whole j → ReadsBack j
  | null, _ => readsBack_null
  | bool v, _ => readsBack_bool v
  | number l, h => by
    obtain ⟨i, hlow, hhigh, rfl⟩ := h
    exact readsBack_number hlow hhigh
  | text s, _ => readsBack_text s
  | list vs, h => readsBack_list (readsBack_items h)
  | object ms, h => readsBack_object (readsBack_members h)

theorem readsBack_items : ∀ {vs : List Json}, WholeItems vs → ∀ v ∈ vs, ReadsBack v
  | [], _ => nofun
  | w :: vs, h => by
    intro v hv
    rcases List.mem_cons.mp hv with he | hv
    · rw [he]
      exact readsBack h.1
    · exact readsBack_items h.2 v hv

theorem readsBack_members : ∀ {ms : List (String × Json)}, WholeMembers ms → ∀ m ∈ ms, ReadsBack m.2
  | [], _ => nofun
  | (k, w) :: ms, h => by
    intro m hm
    rcases List.mem_cons.mp hm with he | hm
    · rw [he]
      exact readsBack h.1
    · exact readsBack_members h.2 m hm

end

/-- **Every value whose numbers are whole is read back from its text.** -/
theorem parse_write {j : Json} (h : Whole j) : parse (write j) = .ok j := by
  have hread := (readsBack h).2 (boundOf (write j)) (Nat.lt_succ_self _) [] trivial
  rw [List.append_nil] at hread
  have hread' : read (write j) = .ok (j, []) := hread
  rw [parse, whole, hread']
  rfl

/-! ## The trees of values -/

mutual

/-- What a reader of JSON sees in the canonical text of a value. -/
def Shape.tree : (s : Shape) → s.Value → Json
  | .text, (t : String) => .text t
  | .integer, (n : Int64) => .number (writeInt n.toInt)
  | .octet, (b : UInt8) => .number (writeInt b.toNat)
  | .platform, (p : Platform) => .text p.name
  | .instant, (t : Instant) => .text t.text
  | .list s, (vs : List s.Value) => .list (vs.map s.tree)
  | .optional _, none => .null
  | .optional s, some v => s.tree v
  | .keyed s, (m : Keyed s.Value) => .object (m.entries.map fun (k, v) => (Decimal.ofInt k.toInt, s.tree v))
  | .record fs, (v : fs.Value) => .object (fs.trees v)

def Fields.trees : (fs : Fields) → fs.Value → List (String × Json)
  | .nil, _ => []
  | .cons name _ s fs, (v, vs) => (name, s.tree v) :: fs.trees vs

end

/-- No octet of a whole number is escaped. -/
theorem escapeOctet_of_beginsNumeral {b : UInt8} (hb : beginsNumeral b = true) : escapeOctet b = [b] := by
  have hne : ∀ c, beginsNumeral c = false → (b == c) = false :=
    fun c hc => beq_eq_false_iff_ne.mpr (ne_of_beginsNumeral hb hc)
  have hcontrol : ¬ b < 0x20 := by
    simp only [beginsNumeral, isDigit, Bool.or_eq_true, Bool.and_eq_true, decide_eq_true_eq, beq_iff_eq,
      UInt8.le_iff_toNat_le] at hb
    rw [UInt8.lt_iff_toNat_lt]
    rcases hb with rfl | hb
    · decide
    · have : 0x30 ≤ b.toNat := hb.1
      show ¬ b.toNat < 0x20
      omega
  simp only [escapeOctet, hne (code '"') (by decide), hne (code '\\') (by decide), hne 0x08 (by decide),
    hne 0x0C (by decide), hne 0x0A (by decide), hne 0x0D (by decide), hne 0x09 (by decide), hcontrol,
    Bool.false_eq_true, if_false]

theorem beginsNumeral_of_mem_writeInt {n : Int} {b : UInt8} (hb : b ∈ writeInt n) : beginsNumeral b = true := by
  have hdigit : ∀ m, b ∈ Octets.ofAscii (Decimal.digits m) → beginsNumeral b = true := by
    intro m hm
    rw [beginsNumeral, isDigit_of_mem_ofAscii (fun c => Decimal.isDigit_of_mem_digits) hm, Bool.or_true]
  cases n with
  | ofNat m => exact hdigit m hb
  | negSucc m =>
    rcases List.mem_cons.mp hb with rfl | hb
    · rfl
    · exact hdigit (m + 1) hb

/-- A whole number between quotes is the quoted text of the number. -/
theorem quote_ofInt (n : Int) : quote (Decimal.ofInt n) = code '"' :: writeInt n ++ [code '"'] := by
  have hplain : ∀ o : Octets, (∀ b ∈ o, beginsNumeral b = true) → o.flatMap escapeOctet = o := by
    intro o ho
    induction o with
    | nil => rfl
    | cons b o ih =>
      rw [List.flatMap_cons, escapeOctet_of_beginsNumeral (ho b List.mem_cons_self),
        ih fun c hc => ho c (List.mem_cons_of_mem _ hc), List.singleton_append]
  have htext : Octets.ofText (Decimal.ofInt n) = writeInt n :=
    Octets.ofText_ofList fun c => Decimal.lt_of_mem_signedDigits
  rw [quote, htext, hplain _ fun b => beginsNumeral_of_mem_writeInt]

mutual

/-- The canonical text of a value is the text of its tree. -/
theorem Shape.write_tree : ∀ (s : Shape) (v : s.Value), (s.tree v).write = s.write v
  | .text, (t : String) => by rw [Shape.tree, Shape.write, Json.write]
  | .integer, (n : Int64) => by rw [Shape.tree, Shape.write, Json.write]
  | .octet, (b : UInt8) => by rw [Shape.tree, Shape.write, Json.write]
  | .platform, (p : Platform) => by rw [Shape.tree, Shape.write, Json.write]
  | .instant, (t : Instant) => by rw [Shape.tree, Shape.write, Json.write]
  | .list s, (vs : List s.Value) => by
    rw [Shape.tree, Shape.write, Json.write, writeItems_eq, List.map_map]
    have hitems : (Json.write ∘ s.tree) = s.write := funext fun v => s.write_tree v
    rw [hitems]
  | .optional s, none => by rw [Shape.tree, Shape.write, Json.write]
  | .optional s, some v => by rw [Shape.tree, Shape.write, s.write_tree v]
  | .keyed s, (m : Keyed s.Value) => by
    rw [Shape.tree, Shape.write, Json.write, writeMembers_eq, List.map_map]
    congr 3
    refine List.map_congr_left fun e _ => ?_
    show quote (Decimal.ofInt e.1.toInt) ++ code ':' :: (s.tree e.2).write =
      writeName (writeInt e.1.toInt) ++ s.write e.2
    rw [quote_ofInt, s.write_tree e.2]
    simp [writeName]
  | .record fs, (v : fs.Value) => by rw [Shape.tree, Shape.write, Json.write, writeMembers_eq, fs.write_trees v]

theorem Fields.write_trees : ∀ (fs : Fields) (v : fs.Value),
    ((fs.trees v).map fun m => quote m.1 ++ code ':' :: m.2.write) = fs.writeAll v
  | .nil, _ => rfl
  | .cons name _ s fs, (v, vs) => by
    rw [Fields.trees, List.map_cons, Fields.writeAll, fs.write_trees vs, s.write_tree v]

end

/-! ## The numbers in a tree -/

theorem wholeItems_of_forall {vs : List Json} (h : ∀ v ∈ vs, Whole v) : WholeItems vs := by
  induction vs with
  | nil => exact trivial
  | cons v vs ih => exact ⟨h v List.mem_cons_self, ih fun w hw => h w (List.mem_cons_of_mem _ hw)⟩

theorem wholeMembers_of_forall {ms : List (String × Json)} (h : ∀ m ∈ ms, Whole m.2) : WholeMembers ms := by
  induction ms with
  | nil => exact trivial
  | cons m ms ih => exact ⟨h m List.mem_cons_self, ih fun w hw => h w (List.mem_cons_of_mem _ hw)⟩

mutual

theorem Shape.whole_tree : ∀ (s : Shape) (v : s.Value), Whole (s.tree v)
  | .text, (t : String) => trivial
  | .integer, (n : Int64) => ⟨n.toInt, (int64_bounds n).1, (int64_bounds n).2, rfl⟩
  | .octet, (b : UInt8) => ⟨b.toNat, (octet_bounds b).1, (octet_bounds b).2, rfl⟩
  | .platform, (p : Platform) => trivial
  | .instant, (t : Instant) => trivial
  | .list s, (vs : List s.Value) => by
    refine wholeItems_of_forall fun w hw => ?_
    obtain ⟨v, -, rfl⟩ := List.mem_map.mp hw
    exact s.whole_tree v
  | .optional s, none => trivial
  | .optional s, some v => s.whole_tree v
  | .keyed s, (m : Keyed s.Value) => by
    refine wholeMembers_of_forall fun w hw => ?_
    obtain ⟨e, -, rfl⟩ := List.mem_map.mp hw
    exact s.whole_tree e.2
  | .record fs, (v : fs.Value) => wholeMembers_of_forall (fs.whole_trees v)

theorem Fields.whole_trees : ∀ (fs : Fields) (v : fs.Value), ∀ m ∈ fs.trees v, Whole m.2
  | .nil, _ => nofun
  | .cons name _ s fs, (v, vs) => by
    intro m hm
    rcases List.mem_cons.mp hm with he | hm
    · rw [he]
      exact s.whole_tree v
    · exact fs.whole_trees vs m hm

end

/-- **The canonical text of a value is read as its tree.** -/
theorem Shape.parse_write (s : Shape) (v : s.Value) : parse (s.write v) = .ok (s.tree v) := by
  rw [← s.write_tree v]
  exact Json.parse_write (s.whole_tree v)

end Json

end Courier
