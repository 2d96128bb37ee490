import Courier.Proofs.Decimals
import Courier.Proofs.EnvironmentLines
import Courier.Settings

/-!
# Reading the settings

Seven variables can be at fault (`Variable.Offends`): two that have to be set, and five that hold a number of their width
when they are set (`Decimal.Spells`). They are looked at one after another, so the first one at fault is reported
(`Settings.inspects_read`). Otherwise each setting is what its variable says (`Settings.FollowFrom`), and nothing else can be
read from the same variables (`Settings.FollowFrom.unique`). A file only matters through the texts that it gives to
variables (`Settings.read_congr`).
-/

namespace Courier

/-! ## Numbers -/

namespace Decimal

/-- A text spells a number of so many bits: an optional plus sign and at least one digit, with a value that fits. -/
def Spells (bits : Nat) (t : String) (n : Nat) : Prop :=
  ∃ ds, (t.toList = ds ∨ t.toList = '+' :: ds) ∧ ds ≠ [] ∧ (∀ c ∈ ds, isDigit c = true) ∧ n = value ds ∧ n < 2 ^ bits

theorem natural?_eq_some_iff {ds : List Char} {n : Nat} :
    natural? ds = some n ↔ ds ≠ [] ∧ (∀ c ∈ ds, isDigit c = true) ∧ n = value ds := by
  simp only [natural?, List.all_eq_true]
  split
  · next h =>
    rw [Option.some.injEq, eq_comm]
    exact ⟨fun hn => ⟨h.1, h.2, hn⟩, fun hn => hn.2.2⟩
  · next h =>
    constructor
    · intro hn
      cases hn
    · rintro ⟨hne, hds, -⟩
      exact absurd ⟨hne, hds⟩ h

theorem unsigned?_eq_some_iff {t : String} {n : Nat} :
    unsigned? t = some n ↔ ∃ ds, (t.toList = ds ∨ t.toList = '+' :: ds) ∧ natural? ds = some n := by
  have hplus : ∀ ds, natural? ('+' :: ds) ≠ some n := by
    intro ds h
    exact absurd ((natural?_eq_some_iff.mp h).2.1 '+' List.mem_cons_self) (by decide)
  unfold unsigned?
  split
  · next cs hcs =>
    rw [hcs]
    constructor
    · intro h
      exact ⟨cs, .inr rfl, h⟩
    · rintro ⟨ds, rfl | hds, h⟩
      · exact absurd h (hplus cs)
      · cases hds
        exact h
  · next hcs =>
    constructor
    · intro h
      exact ⟨_, .inl rfl, h⟩
    · rintro ⟨ds, rfl | hds, h⟩
      · exact h
      · exact absurd hds (hcs ds)

theorem word?_eq_some_iff {bits : Nat} {t : String} {n : Nat} : word? bits t = some n ↔ Spells bits t n := by
  rw [word?, Option.filter_eq_some_iff, unsigned?_eq_some_iff, decide_eq_true_iff]
  constructor
  · rintro ⟨⟨ds, htext, hread⟩, hfits⟩
    obtain ⟨hne, hds, rfl⟩ := natural?_eq_some_iff.mp hread
    exact ⟨ds, htext, hne, hds, rfl, hfits⟩
  · rintro ⟨ds, htext, hne, hds, rfl, hfits⟩
    exact ⟨⟨ds, htext, natural?_eq_some_iff.mpr ⟨hne, hds, rfl⟩⟩, hfits⟩

theorem Spells.unique {bits : Nat} {t : String} {m n : Nat} (hm : Spells bits t m) (hn : Spells bits t n) : m = n := by
  rw [← word?_eq_some_iff] at hm hn
  exact Option.some.inj (hm.symm.trans hn)

theorem word?_eq_none_iff {bits : Nat} {t : String} : word? bits t = none ↔ ¬ ∃ n, Spells bits t n := by
  simp only [← word?_eq_some_iff, Option.eq_none_iff_forall_ne_some, not_exists, ne_eq]

end Decimal

/-! ## Variables at fault -/

namespace Variable

/-- The bits of the number that a variable holds. -/
def bits? : Variable → Option Nat
  | databaseConnections => some 32
  | portNumber => some 16
  | pollSeconds | deliverySeconds | requestSeconds => some 64
  | _ => none

/-- Whether a variable has to be set. -/
def isRequired : Variable → Bool
  | databaseUrl | adminSecret => true
  | _ => false

/-- The variables that can be at fault, in the order in which they are looked at. -/
def inspected : List Variable :=
  [databaseUrl, databaseConnections, portNumber, adminSecret, pollSeconds, deliverySeconds, requestSeconds]

/-- A variable has to be set and is not, or is set to something else than a number of its width. -/
def Offends (v : Variable) (env : Environment) : Prop :=
  (v.isRequired = true ∧ env.get? v = none) ∨
    ∃ bits t, v.bits? = some bits ∧ env.get? v = some t ∧ ¬ ∃ n, Decimal.Spells bits t n

/-- What is reported of a variable at fault. -/
def fault (v : Variable) : SettingsFault :=
  match v.bits? with
  | some bits => .noNumber v bits
  | none => .missing v

/-- A report names its variable. -/
theorem message_fault (v : Variable) : ∃ rest, v.fault.message = v.name ++ rest := by
  unfold fault
  split
  · next bits _ => exact ⟨" must be a valid u" ++ Decimal.ofNat bits, String.append_assoc⟩
  · exact ⟨" environment variable is required", rfl⟩

variable {env : Environment} {v : Variable}

theorem offends_iff_of_bits {bits : Nat} (hbits : v.bits? = some bits) :
    v.Offends env ↔ ∃ t, env.get? v = some t ∧ ¬ ∃ n, Decimal.Spells bits t n := by
  have hfree : v.isRequired = false := by cases v <;> first | rfl | cases hbits
  simp [Offends, hfree, hbits]

theorem offends_iff_of_required (hv : v.isRequired = true) : v.Offends env ↔ env.get? v = none := by
  have hbits : v.bits? = none := by cases v <;> first | rfl | cases hv
  simp [Offends, hv, hbits]

end Variable

namespace Settings

open Variable

variable {env : Environment} {v : Variable}

/-! ## One variable after another -/

/-- A report is about the first of some variables that is at fault. -/
def Reports (env : Environment) (vs : List Variable) (f : SettingsFault) : Prop :=
  ∃ before v after, vs = before ++ v :: after ∧ (∀ u ∈ before, ¬ u.Offends env) ∧ v.Offends env ∧ f = v.fault

/-- Variables are looked at: the first one at fault is reported, and if none is, there is a result with a property. -/
def Inspects {α : Type} (env : Environment) (vs : List Variable) (P : α → Prop) (r : Except SettingsFault α) : Prop :=
  (∃ a, r = .ok a ∧ P a ∧ ∀ v ∈ vs, ¬ v.Offends env) ∨ ∃ f, r = .error f ∧ Reports env vs f

theorem Reports.unique {vs : List Variable} {f g : SettingsFault} (hf : Reports env vs f) (hg : Reports env vs g) :
    f = g := by
  obtain ⟨before, v, after, rfl, hbefore, hv, rfl⟩ := hf
  obtain ⟨before', w, after', heq, hbefore', hw, rfl⟩ := hg
  induction before generalizing before' with
  | nil =>
    cases before' with
    | nil =>
      cases heq
      rfl
    | cons u before' =>
      cases heq
      exact absurd hv (hbefore' v List.mem_cons_self)
  | cons u before ih =>
    cases before' with
    | nil =>
      cases heq
      exact absurd hw (hbefore w List.mem_cons_self)
    | cons u' before' =>
      obtain ⟨-, heq⟩ := List.cons_eq_cons.mp heq
      exact ih (fun x hx => hbefore x (List.mem_cons_of_mem _ hx)) before' heq
        fun x hx => hbefore' x (List.mem_cons_of_mem _ hx)

/-- **Variables are looked at in their order.** -/
theorem Inspects.bind {α β : Type} {vs ws : List Variable} {P : α → Prop} {Q : β → Prop}
    {r : Except SettingsFault α} {k : α → Except SettingsFault β} (hr : Inspects env vs P r)
    (hk : ∀ a, P a → Inspects env ws Q (k a)) : Inspects env (vs ++ ws) Q (r >>= k) := by
  rcases hr with ⟨a, rfl, ha, hvs⟩ | ⟨f, rfl, before, v, after, rfl, hbefore, hv, rfl⟩
  · rcases hk a ha with ⟨b, hb, hQ, hws⟩ | ⟨f, hf, before, v, after, rfl, hbefore, hv, rfl⟩
    · refine .inl ⟨b, hb, hQ, fun u hu => ?_⟩
      exact (List.mem_append.mp hu).elim (hvs u) (hws u)
    · refine .inr ⟨_, hf, vs ++ before, v, after, by simp, fun u hu => ?_, hv, rfl⟩
      exact (List.mem_append.mp hu).elim (hvs u) (hbefore u)
  · exact .inr ⟨_, rfl, before, v, after ++ ws, by simp, hbefore, hv, rfl⟩

/-- A setting that is a number follows from its variable. -/
def NumberFrom (env : Environment) (v : Variable) (bits standard n : Nat) : Prop :=
  (env.get? v = none ∧ n = standard) ∨ ∃ t, env.get? v = some t ∧ Decimal.Spells bits t n

theorem NumberFrom.unique {bits standard m n : Nat} (hm : NumberFrom env v bits standard m)
    (hn : NumberFrom env v bits standard n) : m = n := by
  rcases hm with ⟨hnone, rfl⟩ | ⟨t, ht, hm⟩ <;> rcases hn with ⟨hnone', rfl⟩ | ⟨u, hu, hn⟩
  · rfl
  · cases hnone.symm.trans hu
  · cases ht.symm.trans hnone'
  · cases ht.symm.trans hu
    exact hm.unique hn

theorem inspects_number (env : Environment) {bits : Nat} (hbits : v.bits? = some bits) (standard : Nat) :
    Inspects env [v] (NumberFrom env v bits standard) (number env v bits standard) := by
  have hoffends : v.Offends env ↔ _ := offends_iff_of_bits hbits
  have hfault : v.fault = .noNumber v bits := by rw [fault, hbits]
  unfold number
  cases hset : env.get? v with
  | none =>
    refine .inl ⟨standard, rfl, .inl ⟨hset, rfl⟩, ?_⟩
    simp [hoffends, hset]
  | some t =>
    simp only
    cases hread : Decimal.word? bits t with
    | some n =>
      have hn := Decimal.word?_eq_some_iff.mp hread
      refine .inl ⟨n, rfl, .inr ⟨t, hset, hn⟩, ?_⟩
      rw [List.forall_mem_singleton, hoffends]
      rintro ⟨u, hu, hnone⟩
      cases hset.symm.trans hu
      exact hnone ⟨n, hn⟩
    | none =>
      have hv := hoffends.mpr ⟨t, hset, Decimal.word?_eq_none_iff.mp hread⟩
      exact .inr ⟨_, rfl, [], v, [], rfl, nofun, hv, hfault.symm⟩

theorem inspects_required (env : Environment) (hv : v.isRequired = true) :
    Inspects env [v] (fun t => env.get? v = some t) (required env v) := by
  have hoffends : v.Offends env ↔ _ := offends_iff_of_required hv
  have hfault : v.fault = .missing v := by cases v <;> first | rfl | cases hv
  unfold required
  cases hset : env.get? v with
  | none => exact .inr ⟨_, rfl, [], v, [], rfl, nofun, hoffends.mpr hset, hfault.symm⟩
  | some t =>
    refine .inl ⟨t, rfl, rfl, ?_⟩
    simp [hoffends, hset]

/-! ## All settings -/

/-- Settings follow from the variables of an environment. -/
structure FollowFrom (s : Settings) (env : Environment) : Prop where
  databaseUrl : env.get? .databaseUrl = some s.databaseUrl
  redisUrl : s.redisUrl = (env.get? .redisUrl).getD "redis://localhost:6379"
  databaseConnections : NumberFrom env .databaseConnections 32 20 s.databaseConnections
  portNumber : NumberFrom env .portNumber 16 9999 s.portNumber
  adminSecret : env.get? .adminSecret = some s.adminSecret
  topic : s.topic = (env.get? .topic).getD "notifications"
  pollSeconds : NumberFrom env .pollSeconds 64 5 s.pollSeconds
  deliverySeconds : NumberFrom env .deliverySeconds 64 10 s.deliverySeconds
  requestSeconds : NumberFrom env .requestSeconds 64 30 s.requestSeconds
  emailKey : s.emailKey = env.get? .emailKey
  emailSender : s.emailSender = env.get? .emailSender

theorem FollowFrom.unique {s t : Settings} (hs : s.FollowFrom env) (ht : t.FollowFrom env) : s = t := by
  have hdatabaseUrl := Option.some.inj (hs.databaseUrl.symm.trans ht.databaseUrl)
  have hadminSecret := Option.some.inj (hs.adminSecret.symm.trans ht.adminSecret)
  have hconnections := hs.databaseConnections.unique ht.databaseConnections
  have hport := hs.portNumber.unique ht.portNumber
  have hpoll := hs.pollSeconds.unique ht.pollSeconds
  have hdelivery := hs.deliverySeconds.unique ht.deliverySeconds
  have hrequest := hs.requestSeconds.unique ht.requestSeconds
  have hredis := hs.redisUrl.trans ht.redisUrl.symm
  have htopic := hs.topic.trans ht.topic.symm
  have hkey := hs.emailKey.trans ht.emailKey.symm
  have hsender := hs.emailSender.trans ht.emailSender.symm
  cases s
  cases t
  simp_all only

/-- **The settings are read variable by variable.** -/
theorem inspects_read (env : Environment) : Inspects env inspected (FollowFrom · env) (read env) := by
  refine (inspects_required env rfl).bind fun databaseUrl hdatabaseUrl => ?_
  refine (inspects_number env rfl 20).bind fun databaseConnections hconnections => ?_
  refine (inspects_number env rfl 9999).bind fun portNumber hport => ?_
  refine (inspects_required env rfl).bind fun adminSecret hadminSecret => ?_
  refine (inspects_number env rfl 5).bind fun pollSeconds hpoll => ?_
  refine (inspects_number env rfl 10).bind fun deliverySeconds hdelivery => ?_
  refine (inspects_number env rfl 30).bind fun requestSeconds hrequest => (?_ : Inspects env [] _ _)
  exact .inl ⟨_, rfl, ⟨hdatabaseUrl, rfl, hconnections, hport, hadminSecret, rfl, hpoll, hdelivery, hrequest, rfl, rfl⟩,
    nofun⟩

/-- Environments that give the same texts to all variables give the same settings. -/
theorem read_congr {env' : Environment} (h : ∀ v : Variable, env.get? v = env'.get? v) : read env = read env' := by
  simp only [read, required, number, h]

theorem read_eq_ok_iff {s : Settings} : read env = .ok s ↔ s.FollowFrom env := by
  rcases inspects_read env with ⟨t, ht, hfollow, -⟩ | ⟨f, hf, before, v, after, hvs, -, hv, -⟩
  · rw [ht]
    constructor
    · rintro ⟨⟩
      exact hfollow
    · intro hs
      rw [hfollow.unique hs]
  · rw [hf]
    refine iff_of_false nofun fun hs => ?_
    -- no variable is at fault that a setting follows from
    have hnumber : ∀ {u bits standard n}, u.bits? = some bits → NumberFrom env u bits standard n → ¬ u.Offends env := by
      intro u bits standard n hbits hfrom
      rw [offends_iff_of_bits hbits]
      rintro ⟨t, ht, hnone⟩
      rcases hfrom with ⟨hunset, -⟩ | ⟨t', ht', hn⟩
      · cases ht.symm.trans hunset
      · cases ht.symm.trans ht'
        exact hnone ⟨n, hn⟩
    have hrequired : ∀ {u t}, u.isRequired = true → env.get? u = some t → ¬ u.Offends env := by
      intro u t hu ht
      rw [offends_iff_of_required hu, ht]
      exact Option.some_ne_none t
    have hmem : v ∈ inspected := by simp [hvs]
    simp only [inspected, List.mem_cons, List.not_mem_nil, or_false] at hmem
    rcases hmem with rfl | rfl | rfl | rfl | rfl | rfl | rfl
    · exact hrequired rfl hs.databaseUrl hv
    · exact hnumber rfl hs.databaseConnections hv
    · exact hnumber rfl hs.portNumber hv
    · exact hrequired rfl hs.adminSecret hv
    · exact hnumber rfl hs.pollSeconds hv
    · exact hnumber rfl hs.deliverySeconds hv
    · exact hnumber rfl hs.requestSeconds hv

theorem read_eq_error_iff {f : SettingsFault} : read env = .error f ↔ Reports env inspected f := by
  rcases inspects_read env with ⟨s, hs, -, hnone⟩ | ⟨g, hg, hreports⟩
  · rw [hs]
    refine iff_of_false nofun ?_
    rintro ⟨before, v, after, hvs, -, hv, -⟩
    exact hnone v (by simp [hvs]) hv
  · rw [hg]
    constructor
    · rintro ⟨⟩
      exact hreports
    · intro hf
      rw [hreports.unique hf]

/-- There are settings exactly when what has to be set is set, and what has to be a number is one. -/
theorem exists_read_iff : (∃ s, read env = .ok s) ↔
    (env.get? .databaseUrl).isSome = true ∧ (env.get? .adminSecret).isSome = true ∧
      ∀ v bits t, v.bits? = some bits → env.get? v = some t → ∃ n, Decimal.Spells bits t n := by
  constructor
  · rintro ⟨s, hs⟩
    have hnone : ∀ v ∈ inspected, ¬ v.Offends env := by
      rcases inspects_read env with ⟨-, -, -, hnone⟩ | ⟨f, hf, -⟩
      · exact hnone
      · cases hs.symm.trans hf
    have hfollow := read_eq_ok_iff.mp hs
    refine ⟨by simp [hfollow.databaseUrl], by simp [hfollow.adminSecret], fun v bits t hbits ht => ?_⟩
    by_contra hspells
    refine hnone v ?_ ((offends_iff_of_bits hbits).mpr ⟨t, ht, hspells⟩)
    cases v <;> first | decide | cases hbits
  · rintro ⟨hdatabaseUrl, hadminSecret, hnumbers⟩
    rcases inspects_read env with ⟨s, hs, -, -⟩ | ⟨f, -, before, v, after, hvs, -, hv, -⟩
    · exact ⟨s, hs⟩
    · exfalso
      rcases hv with ⟨hrequired, hunset⟩ | ⟨bits, t, hbits, ht, hspells⟩
      · cases v <;> cases hrequired
        · simp [hunset] at hdatabaseUrl
        · simp [hunset] at hadminSecret
      · exact hspells (hnumbers v bits t hbits ht)

/-- What comes of reading the settings from an environment. -/
structure ReadsFrom (env : Environment) : Prop where
  exists_iff : (∃ s, read env = .ok s) ↔
    (env.get? .databaseUrl).isSome = true ∧ (env.get? .adminSecret).isSome = true ∧
      ∀ v bits t, v.bits? = some bits → env.get? v = some t → ∃ n, Decimal.Spells bits t n
  ok_iff : ∀ s, read env = .ok s ↔ s.FollowFrom env
  error_iff : ∀ f, read env = .error f ↔ Reports env inspected f

/-- **What the settings are read from.** With a file of plain lines they are read as without it, from an environment in
which the variables that were not set have the first text that the file gives them. There are settings exactly when the
two variables that have to be set are, and each number that is set is one of its width; then they follow from the
variables. Otherwise the first variable at fault is reported, and by its name. -/
theorem read_from_both {text : String} {pairs : List (String × String)} (h : Environment.Writes text.toList pairs)
    (hplain : ∀ pair ∈ pairs, Environment.IsPlain pair) (env : Environment) :
    read (env.withFile text) = read (env ++ pairs) ∧
    (∀ v : Variable, Environment.get? (env ++ pairs) v = (env.get? v).or (pairs.lookup v.name)) ∧
    ReadsFrom (env ++ pairs) ∧ ∀ v : Variable, ∃ rest, v.fault.message = v.name ++ rest := by
  refine ⟨read_congr fun v => ?_, fun v => List.lookup_append, ?_, message_fault⟩
  · exact Environment.lookup_withFile h hplain env v.name
  · exact ⟨exists_read_iff, fun s => read_eq_ok_iff, fun f => read_eq_error_iff⟩

/-- The lines of a file that gives one variable twice, and one that is set. -/
def sampleLines : List (String × String) :=
  [("API_PORT", "65535"), ("DATABASE_URL", "postgres://u:p@h/d#x"), ("ADMIN_TOKEN", "t"), ("API_PORT", "65536")]

theorem read_from_both_repeated :
    (∀ pair ∈ sampleLines, Environment.IsPlain pair) ∧
    read (Environment.withFile [("ADMIN_TOKEN", ""), ("HTTP_TIMEOUT_SECS", "+007")]
        "API_PORT=65535\nDATABASE_URL=postgres://u:p@h/d#x\r\nADMIN_TOKEN=t\nAPI_PORT=65536") =
      .ok ⟨"postgres://u:p@h/d#x", "redis://localhost:6379", 20, 65535, "", "notifications", 5, 7, 30, none, none⟩ ∧
    read (Environment.withFile [("DB_MAX_CONNECTIONS", "4294967296"), ("HTTP_TIMEOUT_SECS", "")]
        "API_PORT=65535\nDATABASE_URL=postgres://u:p@h/d#x\r\nADMIN_TOKEN=t\nAPI_PORT=65536") =
      .error (.noNumber .databaseConnections 32) := by
  have hplain : ∀ pair ∈ sampleLines, Environment.IsPlain pair := by decide
  have hwrites : Environment.Writes
      "API_PORT=65535\nDATABASE_URL=postgres://u:p@h/d#x\r\nADMIN_TOKEN=t\nAPI_PORT=65536".toList sampleLines := by
    have hlast := Environment.Writes.last ("API_PORT", "65536")
    have hsecret := hlast.cons ("ADMIN_TOKEN", "t") (e := ['\n']) (by decide)
    have hdatabase := hsecret.cons ("DATABASE_URL", "postgres://u:p@h/d#x") (e := ['\r', '\n']) (by decide)
    exact hdatabase.cons ("API_PORT", "65535") (e := ['\n']) (by decide)
  refine ⟨hplain, ?_, ?_⟩
  · obtain ⟨hread, -⟩ := read_from_both hwrites hplain [("ADMIN_TOKEN", ""), ("HTTP_TIMEOUT_SECS", "+007")]
    rw [hread]
    rfl
  · obtain ⟨hread, -⟩ := read_from_both hwrites hplain [("DB_MAX_CONNECTIONS", "4294967296"), ("HTTP_TIMEOUT_SECS", "")]
    rw [hread]
    rfl

end Settings
end Courier
