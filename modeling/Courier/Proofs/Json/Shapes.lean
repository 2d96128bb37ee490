import Courier.Proofs.Json.Spelling

/-!
# Reading values of a shape

The reader of a proper shape makes of a text what the text stands for (`Shape.reads`), whatever follows that closes it. In
particular every value is read back from its canonical text (`Shape.takes_write`). A record is read member by member into
its slots. What has been read of a field and what is still told of it settle its value (`Fields.TellsFrom`): one member
takes the first telling out of what is left (`Fields.reads_tellMember`), and at the end the slots alone decide
(`Fields.complete_settled`).
-/

namespace Courier.Json

variable {α : Type}

/-! ## Single tokens -/

theorem takes_readText {s : String} {o : Octets} (h : Quotes s o) : Takes readText o s := by
  intro rest _
  obtain ⟨t, rfl, hread⟩ := h.begins
  unfold readText
  rw [List.cons_append, bind_of_ok (next_cons rfl _), if_pos (beq_self_eq_true _), bind_of_ok (advance_cons _ _)]
  exact hread rest

/-- Whole numbers in some range are read back. -/
theorem takes_readWhole {fit : Int → Option α} {n : Int} {a : α} (hfit : fit n = some a)
    (hlow : -0x8000000000000000 ≤ n) (hhigh : n ≤ wordMax) : Takes (readWhole fit) (writeInt n) a := by
  intro rest hrest
  have hnumeral := numeral_writeInt hlow hhigh rest hrest
  obtain ⟨b, o, ho, hb⟩ := writeInt_cons n
  rw [ho, List.cons_append] at hnumeral ⊢
  unfold readWhole
  rw [bind_of_ok (next_cons (opensValue_of_beginsNumeral hb).1.1 _), if_pos hb, bind_of_ok hnumeral]
  simp only [hfit]
  rfl

theorem int64_bounds (n : Int64) : -0x8000000000000000 ≤ n.toInt ∧ n.toInt ≤ wordMax := by
  have hlow : -0x8000000000000000 ≤ n.toInt := n.le_toInt
  have hhigh : n.toInt < 0x8000000000000000 := n.toInt_lt
  have hword : (0x8000000000000000 : Int) ≤ wordMax := by decide
  omega

theorem octet_bounds (b : UInt8) : -0x8000000000000000 ≤ (b.toNat : Int) ∧ (b.toNat : Int) ≤ wordMax := by
  have hhigh : b.toNat < 256 := b.toNat_lt
  have hword : (256 : Int) ≤ wordMax := by decide
  omega

theorem takes_readInt64 (n : Int64) : Takes (readWhole Decimal.toInt64?) (writeInt n.toInt) n :=
  takes_readWhole (Decimal.toInt64?_toInt n) (int64_bounds n).1 (int64_bounds n).2

theorem takes_readOctet (b : UInt8) : Takes (readWhole toOctet?) (writeInt b.toNat) b := by
  have hhigh : b.toNat < 256 := b.toNat_lt
  have hfit : toOctet? b.toNat = some b := by
    rw [toOctet?, if_pos ⟨by omega, by omega⟩]
    simp
  exact takes_readWhole hfit (octet_bounds b).1 (octet_bounds b).2

theorem takes_readPlatform {p : Platform} {o : Octets} (h : Quotes p.name o) : Takes readPlatform o p := by
  intro rest _
  obtain ⟨t, rfl, hread⟩ := h.begins
  unfold readPlatform
  rw [List.cons_append, bind_of_ok (next_cons rfl _), if_pos (beq_self_eq_true _), bind_of_ok (advance_cons _ _),
    bind_of_ok (hread rest), platformNamed, Platform.ofName?_name]
  rfl

theorem takes_readInstant {i : Instant} {s : String} {o : Octets} (hs : Instant.parse? s = some i) (h : Quotes s o) :
    Takes readInstant o i := by
  intro rest hrest
  unfold readInstant
  rw [bind_of_ok (takes_readText h rest hrest), hs]
  rfl

/-! ## Lists and optional values -/

/-- A list is read element by element. -/
theorem reads_readList {item : Reader α} {xs : List (Option α)} {ts : List Spaced}
    (h : List.Forall₂ (fun x t => Opens t.text ∧ Reads item t.text x) xs ts) {gap : Octets} (hgap : Blanks gap) :
    Reads (readList item) (listText gap ts) (xs.mapM id) := by
  intro rest _
  have helements := allElements_row h hgap rest
  rw [row_append]
  unfold readList
  rw [bind_of_ok (next_cons rfl _), if_pos (beq_self_eq_true _), bind_of_ok (advance_cons _ _),
    bind_of_outcome (y := some) (u := rest) helements fun as _ => bind_of_ok (expect_cons rfl _) _, Option.bind_fun_some]

/-- A value that is there is read, unless it begins as `null` does. -/
theorem reads_readOptional {item : Reader α} {o : Octets} {x : Option α} (h : Reads item o x)
    (ho : ∃ b t, o = b :: t ∧ OpensValue b ∧ b ≠ code 'n') : Reads (readOptional item) o (x.map some) := by
  intro rest hrest
  obtain ⟨b, t, rfl, hopens, hn⟩ := ho
  have hitem := h rest hrest
  have hb : (b == code 'n') = false := beq_eq_false_iff_ne.mpr hn
  rw [List.cons_append] at hitem ⊢
  simp only [readOptional, skipBlanks_cons hopens.1, hb, Bool.false_eq_true, if_false, hitem]
  cases x <;> rfl

theorem takes_readOptional_none (item : Reader α) : Takes (readOptional item) (Octets.ofText "null") none := by
  intro rest _
  have hliteral := literal_append [code 'u', code 'l', code 'l'] rest
  have htext : Octets.ofText "null" ++ rest = code 'n' :: ([code 'u', code 'l', code 'l'] ++ rest) := rfl
  rw [htext]
  simp only [readOptional, skipBlanks_cons (b := code 'n') rfl]
  rw [if_pos (beq_self_eq_true _), hliteral]
  rfl

/-! ## Keyed collections -/

/-- The name of a member of a keyed collection is read back. -/
theorem readKey_keyLabel (k : Int64) (rest : Octets) : readKey (keyLabel k ++ rest) = .ok (k, rest) := by
  obtain ⟨b, o, ho, hb⟩ := writeInt_cons k.toInt
  have hwhole := takes_readInt64 k (code '"' :: rest) (closes_quote _)
  have htext : keyLabel k ++ rest = code '"' :: (writeInt k.toInt ++ code '"' :: rest) := by simp [keyLabel]
  rw [htext]
  unfold readKey
  rw [bind_of_ok (advance_cons _ _)]
  rw [ho, List.cons_append] at hwhole ⊢
  refine (bind_of_ok (a := k) (t := code '"' :: rest) ?_ _).trans rfl
  simpa only [hb, if_true] using hwhole

/-- Reads a member of a keyed collection into it. -/
def readEntry (item : Reader α) (m : Keyed α) : Reader (Keyed α) := do
  let k ← readKey
  expect (code ':')
  pure (m.insert k (← item))

theorem reads_readEntry {item : Reader α} (hitem : IgnoresBlanks item) {m : Member} {k : Int64} {x : Option α}
    (hlabel : m.label = keyLabel k) (hvalue : Reads item m.value.text x) (c : Keyed α) :
    Reads (readEntry item c) m.spaced.text (x.map (c.insert k)) := by
  intro rest hrest
  unfold readEntry
  rw [Member.spaced, hlabel, List.append_assoc, List.append_assoc, bind_of_ok (readKey_keyLabel k _),
    (ignoresBlanks_expect _).bind _ _ _ m.blanks_gap, List.cons_append, bind_of_ok (expect_cons rfl _),
    List.append_assoc, hitem.bind _ _ _ m.value.blanks_before]
  exact map_of_outcome (hvalue rest hrest) _

/-- The entries of a keyed collection are put into it one after another. -/
theorem feeds_readEntry {item : Reader α} (hitem : IgnoresBlanks item) {es : List (Int64 × Option α)} {ms : List Member}
    (h : List.Forall₂ (fun e m => m.label = keyLabel e.1 ∧ Reads item m.value.text e.2) es ms) (c : Keyed α) :
    Feeds (readEntry item) c (ms.map Member.spaced)
      ((es.mapM entry).map fun es => es.foldl (fun c (k, v) => c.insert k v) c) := by
  induction h generalizing c with
  | nil => exact .done c
  | @cons e m es ms hm _ ih =>
    obtain ⟨k, x⟩ := e
    obtain ⟨hlabel, hvalue⟩ := hm
    have hquote : BeginsQuoted m.spaced.text := ⟨_, congrArg (· ++ _) hlabel⟩
    have hread := reads_readEntry hitem hlabel hvalue c
    cases x with
    | none => exact .stop hquote hread
    | some v =>
      have hmore := ih (c.insert k v)
      have hlast : (((k, some v) :: es).mapM entry).map (fun es => es.foldl (fun c (k, v) => c.insert k v) c) =
          (es.mapM entry).map fun es => es.foldl (fun c (k, v) => c.insert k v) (c.insert k v) := by
        cases hes : es.mapM entry <;> simp [List.mapM_cons, entry, hes]
      rw [hlast]
      exact .more hquote hread hmore

/-- A keyed collection is read when its values are. -/
theorem reads_readKeyed {item : Reader α} (hitem : IgnoresBlanks item) {es : List (Int64 × Option α)} {ms : List Member}
    (h : List.Forall₂ (fun e m => m.label = keyLabel e.1 ∧ Reads item m.value.text e.2) es ms) {gap : Octets}
    (hgap : Blanks gap) : Reads (readKeyed item) (objectText gap ms) ((es.mapM entry).map Keyed.ofList) := by
  intro rest _
  have hmembers := allMembers_row (feeds_readEntry hitem h Keyed.empty) hgap rest
  rw [row_append]
  unfold readKeyed
  rw [bind_of_ok (next_cons rfl _), if_pos (beq_self_eq_true _), bind_of_ok (advance_cons _ _)]
  refine (bind_of_outcome (r := allMembers (readEntry item) Keyed.empty) (y := some) (u := rest) hmembers
    fun c _ => bind_of_ok (expect_cons rfl _) _).trans ?_
  rw [Option.bind_fun_some]
  rfl

/-! ## Blanks -/

theorem ignoresBlanks_readOptional {item : Reader α} (hitem : IgnoresBlanks item) : IgnoresBlanks (readOptional item) := by
  intro w s hw
  simp only [readOptional, skipBlanks_past hw, hitem w s hw]

theorem Shape.ignoresBlanks_read : ∀ s : Shape, IgnoresBlanks s.read
  | .text => by rw [read]; exact ignoresBlanks_next.bind _
  | .integer => by rw [read]; exact ignoresBlanks_next.bind _
  | .octet => by rw [read]; exact ignoresBlanks_next.bind _
  | .platform => by rw [read]; exact ignoresBlanks_next.bind _
  | .instant => by rw [read]; exact (ignoresBlanks_next.bind _).bind _
  | .list s => by rw [read]; exact ignoresBlanks_next.bind _
  | .optional s => by rw [read]; exact ignoresBlanks_readOptional s.ignoresBlanks_read
  | .keyed s => by rw [read]; exact ignoresBlanks_next.bind _
  | .record fs => by rw [read]; exact ignoresBlanks_next.bind _

/-! ## What is left to be told of a record -/

/-- What has been told of a field already. -/
def told (slot : Option α) : List (Option α) := (slot.map some).toList

/-- What members tell of the fields of a record, some of which may have been told already. -/
def Fields.TellsFrom : (fs : Fields) → fs.Slots → Option fs.Value → List (String × Member) → Prop
  | .nil, _, x, _ => x = some ()
  | .cons name absence s fs, (slot, slots), x, ms => ∃ (ys : List (Option s.Value)) (z : Option fs.Value),
    List.Forall₂ s.Denotes ys (named name ms) ∧ fs.TellsFrom slots z ms ∧
      x = both (once (s.whenOmitted absence) (told slot ++ ys)) z

/-- What the slots tell at the end of the object. -/
def Fields.settled : (fs : Fields) → fs.Slots → Option fs.Value
  | .nil, _ => some ()
  | .cons _ absence s fs, (slot, slots) => both (slot.or (s.whenOmitted absence)) (fs.settled slots)

theorem Fields.Tells.from_blank : ∀ {fs : Fields} {x : Option fs.Value} {ms : List (String × Member)}, fs.Tells x ms →
    fs.TellsFrom fs.blank x ms
  | .nil, _, _, h => h
  | .cons name absence s fs, x, ms, h => by
    obtain ⟨ys, z, hys, hz, hx⟩ := h
    exact ⟨ys, z, hys, Fields.Tells.from_blank hz, hx⟩

/-- A member that has the name of no field tells nothing. -/
theorem Fields.TellsFrom.tail : ∀ {fs : Fields} {slots : fs.Slots} {x : Option fs.Value} {key : String} {m : Member}
    {ms : List (String × Member)}, key ∉ fs.names → fs.TellsFrom slots x ((key, m) :: ms) → fs.TellsFrom slots x ms
  | .nil, _, _, _, _, _, _, h => h
  | .cons name absence s fs, (slot, slots), x, key, m, ms, hkey, h => by
    obtain ⟨hne, hkey⟩ := not_or.mp (mt List.mem_cons.mpr hkey)
    obtain ⟨ys, z, hys, hz, hx⟩ := h
    rw [named_cons_of_ne hne] at hys
    exact ⟨ys, z, hys, Fields.TellsFrom.tail hkey hz, hx⟩

theorem Fields.TellsFrom.settled_eq : ∀ {fs : Fields} {slots : fs.Slots} {x : Option fs.Value},
    fs.TellsFrom slots x [] → x = fs.settled slots
  | .nil, _, _, h => h
  | .cons name absence s fs, (slot, slots), x, h => by
    obtain ⟨ys, z, hys, hz, rfl⟩ := h
    obtain rfl : ys = [] := List.forall₂_nil_right_iff.mp hys
    obtain rfl : z = fs.settled slots := Fields.TellsFrom.settled_eq hz
    cases slot <;> rfl

/-- A record is complete when its slots tell every field. -/
theorem Fields.complete_settled : ∀ (fs : Fields) (slots : fs.Slots) (s : Octets),
    fs.complete slots s = outcome (fs.settled slots) s
  | .nil, _, _ => rfl
  | .cons name absence sh fs, (slot, slots), s => by
    have habsent : sh.whenAbsent (absence != .refused) s = outcome (sh.whenOmitted absence) s := by
      unfold Shape.whenAbsent Shape.whenOmitted
      cases absence <;> cases sh.empty? <;> rfl
    have hmore : ∀ v : sh.Value, (do let vs ← fs.complete slots; pure (v, vs) : Reader (sh.Value × fs.Value)) s =
        outcome ((fs.settled slots).map (Prod.mk v)) s :=
      fun v => map_of_outcome (fs.complete_settled slots s) (Prod.mk v)
    cases slot with
    | none =>
      rw [complete]
      exact bind_of_outcome habsent fun v _ => hmore v
    | some v =>
      rw [complete]
      exact hmore v

/-! ## Records -/

/-- The readers of all fields make of a text what it stands for. -/
def Fields.Sound : Fields → Prop
  | .nil => True
  | .cons _ _ s fs => (∀ x o, s.Denotes x o → Reads s.read o x) ∧ fs.Sound


/-- Reads the rest of a member of an object, after its name. -/
def tellMember {σ : Type} (member : String → σ → Option (Reader σ)) (key : String) (slots : σ) : Reader σ :=
  match member key slots with
  | some r => r
  | none => do
    expect (code ':')
    skip
    pure slots

/-- Reads a member of an object. -/
def readMember {σ : Type} (member : String → σ → Option (Reader σ)) (slots : σ) : Reader σ := do
  advance
  tellMember member (← unquote) slots

section Members

variable {name key : String} {absence : Absence} {s : Shape} {fs : Fields}

/-- The member of the first field, which has not been read. -/
theorem Fields.tellMember_first (slots : fs.Slots) :
    tellMember (Fields.cons name absence s fs).member name (none, slots) = (do
      expect (code ':')
      let v ← s.read
      pure (some v, slots)) := by
  have hmember : (Fields.cons name absence s fs).member name (none, slots) = some (do
      expect (code ':')
      let v ← s.read
      pure (some v, slots)) := if_pos rfl
  simp only [tellMember, hmember]

/-- The member of the first field, which has been read. -/
theorem Fields.tellMember_again (v : s.Value) (slots : fs.Slots) :
    tellMember (Fields.cons name absence s fs).member name (some v, slots) = fail .mismatch := by
  have hmember : (Fields.cons name absence s fs).member name (some v, slots) = some (fail .mismatch) := if_pos rfl
  simp only [tellMember, hmember]

/-- A member that is not that of the first field. -/
theorem Fields.tellMember_later (hkey : key ≠ name) (slot : Option s.Value) (slots : fs.Slots) :
    tellMember (Fields.cons name absence s fs).member key (slot, slots) = (do
      let slots ← tellMember fs.member key slots
      pure (slot, slots)) := by
  have hmember : (Fields.cons name absence s fs).member key (slot, slots) =
      (fs.member key slots).map fun r => (do let slots ← r; pure (slot, slots)) := by
    refine (if_neg hkey).trans ?_
    cases fs.member key slots <;> rfl
  simp only [tellMember, hmember]
  cases fs.member key slots with
  | none => simp only [Option.map_none, bind_assoc, pure_bind]
  | some r => rfl

end Members

/-- **A member takes the first telling out of what is left to be told of a record**, or it stops the reader when the record
cannot be told any more. -/
theorem Fields.reads_tellMember : ∀ {fs : Fields}, fs.Sound → fs.names.Nodup → ∀ {slots : fs.Slots} {x : Option fs.Value}
    {key : String} {m : Member} {ms : List (String × Member)}, (key ∉ fs.names → JsonText m.value.text) →
    fs.TellsFrom slots x ((key, m) :: ms) → ∃ y, Reads (tellMember fs.member key slots)
      (m.gap ++ code ':' :: (m.value.before ++ m.value.text)) y ∧ (y = none → x = none) ∧
        ∀ mid, y = some mid → fs.TellsFrom mid x ms
  | .nil, _, _, slots, x, key, m, ms, hunknown, h => by
    refine ⟨some slots, fun rest hrest => ?_, nofun, fun _ _ => h⟩
    have hskip := (hunknown List.not_mem_nil).skip m.value.blanks_before hrest
    show (expect (code ':') >>= _) _ = _
    rw [List.append_assoc, List.cons_append, List.append_assoc, (ignoresBlanks_expect _).bind _ _ _ m.blanks_gap,
      bind_of_ok (expect_cons rfl _), bind_of_ok hskip]
    rfl
  | .cons name absence s fs, hsound, hnames, (slot, slots), x, key, m, ms, hunknown, h => by
    obtain ⟨hname, hnames⟩ := List.nodup_cons.mp hnames
    obtain ⟨ys, z, hys, hz, rfl⟩ := h
    by_cases hkey : key = name
    · subst hkey
      rw [named_cons_self] at hys
      obtain ⟨y, zs, hy, hzs, rfl⟩ := List.forall₂_cons_right_iff.mp hys
      have hz := hz.tail hname
      cases slot with
      | some v =>
        refine ⟨none, fun rest _ => ?_, fun _ => rfl, nofun⟩
        rw [tellMember_again]
        rfl
      | none =>
        refine ⟨y.map fun v => (some v, slots), fun rest hrest => ?_, ?_, ?_⟩
        · have hread := hsound.1 y _ hy rest hrest
          rw [tellMember_first, List.append_assoc, List.cons_append, List.append_assoc,
            (ignoresBlanks_expect _).bind _ _ _ m.blanks_gap, bind_of_ok (expect_cons rfl _)]
          rw [← s.ignoresBlanks_read _ _ m.value.blanks_before] at hread
          exact map_of_outcome hread _
        · intro hy
          rw [Option.map_eq_none_iff.mp hy]
          cases zs <;> rfl
        · intro mid hmid
          obtain ⟨v, rfl, rfl⟩ := Option.map_eq_some_iff.mp hmid
          exact ⟨zs, z, hzs, hz, rfl⟩
    · have hunknown' : key ∉ fs.names → JsonText m.value.text :=
        fun hmore => hunknown fun hmem => (List.mem_cons.mp hmem).elim hkey hmore
      obtain ⟨y, hread, hnone, hsome⟩ := Fields.reads_tellMember hsound.2 hnames hunknown' hz
      refine ⟨y.map (Prod.mk slot), fun rest hrest => ?_, ?_, ?_⟩
      · rw [tellMember_later hkey]
        exact map_of_outcome (hread rest hrest) _
      · intro hy
        rw [hnone (Option.map_eq_none_iff.mp hy)]
        cases once (s.whenOmitted absence) (told slot ++ ys) <;> rfl
      · intro mid hmid
        obtain ⟨mid, hy, rfl⟩ := Option.map_eq_some_iff.mp hmid
        rw [named_cons_of_ne hkey] at hys
        exact ⟨ys, z, hys, hsome mid hy, rfl⟩

/-- The members of an object are read one after another, and the slots settle what has been told at the end. -/
theorem Fields.TellsFrom.feeds {fs : Fields} (hsound : fs.Sound) (hnames : fs.names.Nodup) {slots : fs.Slots}
    {x : Option fs.Value} {ms : List (String × Member)} (hlabels : ∀ m ∈ ms, Quotes m.1 m.2.label)
    (hunknown : ∀ m ∈ ms, m.1 ∉ fs.names → JsonText m.2.value.text) (h : fs.TellsFrom slots x ms) :
    ∃ y, Feeds (readMember fs.member) slots ((ms.map Prod.snd).map Member.spaced) y ∧ x = y.bind fs.settled := by
  induction ms generalizing slots with
  | nil => exact ⟨some slots, .done slots, h.settled_eq⟩
  | cons m ms ih =>
    obtain ⟨key, m⟩ := m
    obtain ⟨t, ht, hquoted⟩ := (hlabels (key, m) List.mem_cons_self).begins
    obtain ⟨y, hread, hnone, hsome⟩ := Fields.reads_tellMember hsound hnames (hunknown (key, m) List.mem_cons_self) h
    have hquote : BeginsQuoted m.spaced.text := ⟨_, congrArg (· ++ _) ht⟩
    have hmember : Reads (readMember fs.member slots) m.spaced.text y := by
      intro rest hrest
      unfold readMember
      rw [Member.spaced, ht, List.append_assoc, List.cons_append, bind_of_ok (advance_cons _ _), bind_of_ok (hquoted _)]
      exact hread rest hrest
    cases y with
    | none => exact ⟨none, .stop hquote hmember, hnone rfl⟩
    | some mid =>
      obtain ⟨y, hfeeds, hx⟩ := ih (fun l hl => hlabels l (List.mem_cons_of_mem _ hl))
        (fun l hl => hunknown l (List.mem_cons_of_mem _ hl)) (hsome mid rfl)
      exact ⟨y, .more hquote hmember hfeeds, hx⟩

/-- The fields of a record are read from a list in their order, up to the blanks before its end. -/
theorem Fields.Lists.inOrder_row : ∀ {fs : Fields}, fs.Sound → ∀ {x : Option fs.Value} {ts : List Spaced}, fs.Lists x ts →
    ∀ (first : Bool) {w : Octets}, Blanks w → ∃ v, Blanks v ∧ ∀ rest,
      fs.inOrder first (w ++ (rowFrom first (ts.map Spaced.octets) ++ code ']' :: rest)) =
        outcome x (v ++ code ']' :: rest)
  | .nil, _, _, _, h, first, w, hw => by
    obtain ⟨rfl, rfl⟩ := h
    refine ⟨w, hw, fun rest => ?_⟩
    cases first <;> rfl
  | .cons name absence s fs, hsound, _, _, h, first, w, hw => by
    obtain ⟨y, z, t, us, rfl, hy, hz, rfl⟩ := h
    obtain ⟨v, hv, hmore⟩ := Fields.Lists.inOrder_row hsound.2 hz false t.blanks_after
    refine ⟨v, hv, fun rest => ?_⟩
    have hcloses : Closes (t.after ++ (rowFrom false (us.map Spaced.octets) ++ code ']' :: rest)) :=
      ((closes_bracket rest).after_row _).after_blanks t.blanks_after
    rw [inOrder, List.map_cons, bind_of_ok (hasElement_row (Shape.opens_of_denotes hy) first hw _ _), if_pos rfl]
    exact bind_of_outcome (hsound.1 y _ hy _ hcloses) fun a _ => map_of_outcome (hmore rest) (Prod.mk a)

/-- A record is read when its fields are. -/
theorem reads_record {fs : Fields} (hsound : fs.Sound) (hnames : fs.names.Nodup) {x : Option fs.Value} {o : Octets}
    (h : (Shape.record fs).Denotes x o) : Reads (Shape.record fs).read o x := by
  intro rest _
  rw [Shape.read]
  unfold readRecord
  rcases h with ⟨gap, ms, hgap, hlabels, hunknown, htells, rfl⟩ | ⟨gap, ts, hgap, hlists, rfl⟩
  · obtain ⟨y, hfeeds, rfl⟩ := htells.from_blank.feeds hsound hnames hlabels hunknown
    have hmembers := allMembers_row hfeeds hgap rest
    rw [row_append]
    refine (bind_of_ok (next_cons rfl _) _).trans ?_
    rw [if_pos (beq_self_eq_true _)]
    refine (bind_of_ok (advance_cons _ _) _).trans ?_
    refine bind_of_outcome (r := allMembers (readMember fs.member) fs.blank) hmembers fun slots _ => ?_
    refine (bind_of_outcome (y := some) (u := rest) (fs.complete_settled slots _) fun v _ => ?_).trans ?_
    · exact bind_of_ok (expect_cons rfl _) _
    · rw [Option.bind_fun_some]
      rfl
  · obtain ⟨v, hv, hread⟩ := hlists.inOrder_row hsound true hgap
    rw [row_append]
    refine (bind_of_ok (next_cons rfl _) _).trans ?_
    rw [if_neg (by decide), if_pos (beq_self_eq_true _)]
    refine (bind_of_ok (advance_cons _ _) _).trans ?_
    refine (bind_of_outcome (y := some) (u := rest) (hread rest) fun a _ => ?_).trans ?_
    · rw [(ignoresBlanks_expect _).bind _ _ _ hv]
      exact bind_of_ok (expect_cons rfl _) _
    · rw [Option.bind_fun_some]
      rfl

/-! ## Values -/

mutual

/-- **The reader of a proper shape makes of a text what the text stands for.** -/
theorem Shape.reads : ∀ {s : Shape}, s.Proper → ∀ {x : Option s.Value} {o : Octets}, s.Denotes x o → Reads s.read o x
  | .text, _, _, _, h => by
    obtain ⟨t, rfl, ht⟩ := h
    rw [Shape.read]
    exact takes_readText ht
  | .integer, _, _, _, h => by
    obtain ⟨n, rfl, rfl⟩ := h
    rw [Shape.read]
    exact takes_readInt64 n
  | .octet, _, _, _, h => by
    obtain ⟨b, rfl, rfl⟩ := h
    rw [Shape.read]
    exact takes_readOctet b
  | .platform, _, _, _, h => by
    obtain ⟨p, rfl, hp⟩ := h
    rw [Shape.read]
    exact takes_readPlatform hp
  | .instant, _, _, _, h => by
    obtain ⟨i, t, rfl, hi, ht⟩ := h
    rw [Shape.read]
    exact takes_readInstant hi ht
  | .list s, hs, _, _, h => by
    obtain ⟨gap, xs, ts, hgap, hts, rfl, rfl⟩ := h
    rw [Shape.read]
    exact reads_readList (hts.imp fun x t ht => ⟨Shape.opens_of_denotes ht, Shape.reads (s := s) hs ht⟩) hgap
  | .optional s, hs, _, _, h => by
    rw [Shape.read]
    rcases h with ⟨rfl, rfl⟩ | ⟨y, rfl, hy⟩
    · exact takes_readOptional_none s.read
    · obtain ⟨b, t, ho, hopens, hn⟩ := Shape.denotes_cons hy
      exact reads_readOptional (Shape.reads hs.1 hy) ⟨b, t, ho, hopens, hn hs.2⟩
  | .keyed s, hs, _, _, h => by
    obtain ⟨gap, es, ms, hgap, hms, rfl, rfl⟩ := h
    rw [Shape.read]
    exact reads_readKeyed s.ignoresBlanks_read (hms.imp fun e m hm => ⟨hm.1, Shape.reads (s := s) hs hm.2⟩) hgap
  | .record fs, hs, _, _, h => reads_record (Fields.sound hs.1) hs.2 h

theorem Fields.sound : ∀ {fs : Fields}, fs.Proper → fs.Sound
  | .nil, _ => trivial
  | .cons _ _ _ _, hfs => ⟨fun _ _ h => Shape.reads hfs.1 h, Fields.sound hfs.2⟩

end

/-- Every value of a proper shape is read back from its canonical text. -/
theorem Shape.takes_write {s : Shape} (hs : s.Proper) (v : s.Value) : Takes s.read (s.write v) v :=
  Shape.reads hs (Shape.denotes_write hs v)

theorem Shape.opens_write : ∀ (s : Shape) (v : s.Value), Opens (s.write v)
  | .text, (t : String) => by rw [write]; exact ⟨rfl, by decide⟩
  | .integer, (n : Int64) => by rw [write]; exact opens_writeInt n.toInt
  | .octet, (b : UInt8) => by rw [write]; exact opens_writeInt b.toNat
  | .platform, (p : Platform) => by rw [write]; exact ⟨rfl, by decide⟩
  | .instant, (i : Instant) => by rw [write]; exact ⟨rfl, by decide⟩
  | .list s, (vs : List s.Value) => by rw [write]; exact ⟨rfl, by decide⟩
  | .optional s, none => by rw [write]; exact ⟨rfl, by decide⟩
  | .optional s, some v => by rw [write]; exact s.opens_write v
  | .keyed s, (m : Keyed s.Value) => by rw [write]; exact ⟨rfl, by decide⟩
  | .record fs, (v : fs.Value) => by rw [write]; exact ⟨rfl, by decide⟩

end Courier.Json
