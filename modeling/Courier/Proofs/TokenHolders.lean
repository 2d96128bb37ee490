import Courier.Proofs.Json.Trees
import Courier.Proofs.TokenRoutes
import Mathlib.Data.List.Nodup

/-!
# Token holders

Requests come to a service one after another, and the database may fail for any of them. A visit is a request with the
answer that it got. Visits tell which tokens are live (`Live`): those that were issued to a user whose token was not
taken away since. What a visit can do to the register is said once (`Touches`), and from that follows what every run
keeps (`Tokens.Sound`, `Sound.touched`, `run_sound`): the register holds the live tokens, one for each user, and the text
of each is a new one. So the visits tell who is let in, who is refused a token and who gets one
(`tokens_follow_visits`).
-/

namespace Courier

open Memory Api

/-! ## Visits -/

/-- A request that comes, and why every statement of the database fails by then, if it does. -/
structure Arrival where
  request : Http.Request
  fault : Option String

/-- A request and the answer that it got. -/
structure Visit where
  request : Http.Request
  response : Http.Response

namespace Visit

/-- A token was issued to a user. -/
structure Issued (v : Visit) (user token : String) : Prop where
  method : v.request.method = "POST"
  route : ∃ written, route? v.request.path = some (.tokens, written)
  user : ∃ d : TokenDraft, Wire.decode v.request.body = .ok d ∧ Text.trim d.adminUser = user
  status : v.response.status = 201
  token : v.response.body = Json.write (.object [("token", .text token)])

/-- The token of a user was taken away. -/
structure Revoked (v : Visit) (user : String) : Prop where
  method : v.request.method = "DELETE"
  route : ∃ written, route? v.request.path = some (.tokenOfUser, written) ∧ unescape "user" written = .ok user
  status : v.response.status = 200

variable {v : Visit} {user user' token token' : String}

theorem Issued.unique (h : v.Issued user token) (h' : v.Issued user' token') : user = user' ∧ token = token' := by
  obtain ⟨d, hd, rfl⟩ := h.user
  obtain ⟨d', hd', rfl⟩ := h'.user
  obtain rfl : d = d' := Except.ok.inj (hd.symm.trans hd')
  have hparse : ∀ t, Json.parse (Json.write (.object [("token", .text t)])) = .ok (.object [("token", .text t)]) :=
    fun t => Json.parse_write ⟨trivial, trivial⟩
  have heq := hparse token
  rw [← h.token, h'.token, hparse] at heq
  cases heq
  exact ⟨rfl, rfl⟩

theorem Revoked.unique (h : v.Revoked user) (h' : v.Revoked user') : user = user' := by
  obtain ⟨written, hroute, huser⟩ := h.route
  obtain ⟨written', hroute', huser'⟩ := h'.route
  cases hroute.symm.trans hroute'
  exact Except.ok.inj (huser.symm.trans huser')

theorem Issued.not_revoked (h : v.Issued user token) : ¬ v.Revoked user' := fun h' =>
  absurd (h.method.symm.trans h'.method) (by decide)

end Visit

/-! ## What a visit does to the tokens -/

namespace Memory.Tokens

variable {t : Tokens} {user : String}

theorem ofUser_eq_none_iff : t.ofUser user = none ↔ ∀ row ∈ t.rows, row.adminUser ≠ user := by
  simp [ofUser, List.find?_eq_none]

theorem revoke_iff : (t.revoke user).1 = true ↔ ∃ row ∈ t.rows, row.adminUser = user := by
  simp [revoke]

theorem revoke_rows_of_none (h : ∀ row ∈ t.rows, row.adminUser ≠ user) : (t.revoke user).2 = t := by
  have hrows : t.rows.filter (fun r => r.adminUser != user) = t.rows :=
    List.filter_eq_self.mpr fun row hrow => bne_iff_ne.mpr (h row hrow)
  rw [revoke, hrows]

end Memory.Tokens

/-- The ways in which a visit can leave the tokens. -/
inductive Touches (mint : Nat → String) (t : Tokens) (v : Visit) : Tokens → Prop
  | issues {user : String} {id : Int64} {moment : Instant} (huser : IsUser user)
    (hfree : ∀ row ∈ t.rows, row.adminUser ≠ user) (hissued : v.Issued user (mint t.issued)) :
    Touches mint t v ⟨t.rows ++ [⟨id, mint t.issued, user, moment⟩], t.used + 1, t.issued + 1⟩
  | revokes {user : String} (hheld : ∃ row ∈ t.rows, row.adminUser = user) (hrevoked : v.Revoked user) :
    Touches mint t v (t.revoke user).2
  | spares {t' : Tokens} (hissued : ∀ user token, ¬ v.Issued user token) (hrevoked : ∀ user, ¬ v.Revoked user)
    (hrows : t'.rows = t.rows) (hcount : t'.issued = t.issued) : Touches mint t v t'

namespace Service

theorem touches_of_post {r : Http.Request} {written : List Char} (s : Service) (hmethod : r.method = "POST")
    (hroute : route? r.path = some (.tokens, written)) :
    Touches s.database.mint s.database.tokens ⟨r, (s.respond r).1⟩ (s.respond r).2.database.tokens := by
  have hrevoked : ∀ user, ¬ Visit.Revoked ⟨r, (s.respond r).1⟩ user := fun user h =>
    absurd (hmethod.symm.trans h.method) (by decide)
  rcases applies_or_refused (s := s) hmethod hroute with ⟨user, happlies, huser, hfault⟩ | ⟨hstatus, htokens⟩
  · obtain ⟨hanswer, htokens⟩ := respond_of_applies happlies huser hfault
    rw [htokens]
    cases hfree : s.database.tokens.ofUser user with
    | some row =>
      rw [Tokens.issue, hfree] at hanswer ⊢
      refine .spares (fun user' token h => ?_) hrevoked rfl rfl
      have hstatus := h.status
      rw [hanswer] at hstatus
      cases hstatus
    | none =>
      rw [Tokens.issue, hfree] at hanswer ⊢
      obtain ⟨-, d, hd, hdraft⟩ := happlies.body
      refine .issues huser (Tokens.ofUser_eq_none_iff.mp hfree) ⟨hmethod, ⟨written, hroute⟩, ⟨d, hd, hdraft⟩, ?_, ?_⟩
      · rw [hanswer]
        rfl
      · rw [hanswer]
        rfl
  · exact .spares (fun user token h => hstatus h.status) hrevoked (congrArg _ htokens) (congrArg _ htokens)

theorem touches_of_delete {r : Http.Request} {written : List Char} (s : Service) (hmethod : r.method = "DELETE")
    (hroute : route? r.path = some (.tokenOfUser, written)) :
    Touches s.database.mint s.database.tokens ⟨r, (s.respond r).1⟩ (s.respond r).2.database.tokens := by
  have hissued : ∀ user token, ¬ Visit.Issued ⟨r, (s.respond r).1⟩ user token := fun user token h =>
    absurd (h.method.symm.trans hmethod) (by decide)
  rcases revokes_or_refused (s := s) hmethod hroute with ⟨user, hparameter, hstatus, htokens⟩ | ⟨hstatus, htokens⟩
  · rw [htokens]
    by_cases hheld : ∃ row ∈ s.database.tokens.rows, row.adminUser = user
    · rw [Tokens.revoke_iff.mpr hheld] at hstatus
      exact .revokes hheld ⟨hmethod, ⟨written, hroute, hparameter⟩, hstatus⟩
    · have hnone : ∀ row ∈ s.database.tokens.rows, row.adminUser ≠ user := fun row hrow h => hheld ⟨row, hrow, h⟩
      rw [if_neg (mt Tokens.revoke_iff.mp hheld)] at hstatus
      refine .spares hissued (fun user' h => ?_) (congrArg _ (Tokens.revoke_rows_of_none hnone))
        (congrArg _ (Tokens.revoke_rows_of_none hnone))
      cases hstatus.symm.trans h.status
  · exact .spares hissued (fun user h => hstatus h.status) (congrArg _ htokens) (congrArg _ htokens)

/-- A token comes by a visit that issues one, and goes by a visit that takes one away. -/
theorem touches (s : Service) (r : Http.Request) :
    Touches s.database.mint s.database.tokens ⟨r, (s.respond r).1⟩ (s.respond r).2.database.tokens := by
  by_cases hpost : r.method = "POST" ∧ ∃ written, route? r.path = some (.tokens, written)
  · obtain ⟨hmethod, written, hroute⟩ := hpost
    exact touches_of_post s hmethod hroute
  by_cases hdelete : r.method = "DELETE" ∧ ∃ written, route? r.path = some (.tokenOfUser, written)
  · obtain ⟨hmethod, written, hroute⟩ := hdelete
    exact touches_of_delete s hmethod hroute
  have htokens := respond_spares (s := s) (fun written hmethod hroute => hpost ⟨hmethod, written, hroute⟩)
    fun written hmethod hroute => hdelete ⟨hmethod, written, hroute⟩
  refine .spares (fun user token h => hpost ⟨h.method, h.route⟩) (fun user h => ?_) (congrArg _ htokens)
    (congrArg _ htokens)
  obtain ⟨written, hroute, -⟩ := h.route
  exact hdelete ⟨h.method, written, hroute⟩

end Service

/-! ## Live tokens -/

/-- A token was issued to a user, and the token of this user was not taken away since. -/
def Live (vs : List Visit) (user token : String) : Prop :=
  ∃ before v after, vs = before ++ v :: after ∧ v.Issued user token ∧ ∀ w ∈ after, ¬ w.Revoked user

/-- A token is live after one more visit if it was issued by that, or was live and was not taken away by it. -/
theorem live_concat_iff {vs : List Visit} {v : Visit} {user token : String} :
    Live (vs ++ [v]) user token ↔ v.Issued user token ∨ Live vs user token ∧ ¬ v.Revoked user := by
  constructor
  · rintro ⟨before, w, after, heq, hissued, hkept⟩
    rcases after.eq_nil_or_concat with rfl | ⟨after, last, rfl⟩
    · obtain ⟨-, hlast⟩ := List.append_inj' heq rfl
      cases hlast
      exact .inl hissued
    · have heq' : vs ++ [v] = (before ++ w :: after) ++ [last] := by simpa using heq
      obtain ⟨rfl, hlast⟩ := List.append_inj' heq' rfl
      cases hlast
      refine .inr ⟨⟨before, w, after, rfl, hissued, fun x hx => ?_⟩, ?_⟩
      · exact hkept x (by simp [hx])
      · exact hkept v (by simp)
  · rintro (hissued | ⟨⟨before, w, after, rfl, hissued, hkept⟩, hrevoked⟩)
    · exact ⟨vs, v, [], rfl, hissued, nofun⟩
    · refine ⟨before, w, after ++ [v], by simp, hissued, fun x hx => ?_⟩
      rcases List.mem_append.mp hx with hx | hx
      · exact hkept x hx
      · cases List.mem_singleton.mp hx
        exact hrevoked

/-- A user whose token was taken away holds none until one is issued again. -/
theorem not_live_of_revoked {before after : List Visit} {v : Visit} {user : String} (hv : v.Revoked user)
    (hafter : ∀ w ∈ after, ∀ token, ¬ w.Issued user token) (token : String) :
    ¬ Live (before ++ v :: after) user token := by
  rintro ⟨before', w, after', heq, hissued, hkept⟩
  rcases List.append_eq_append_iff.mp heq with ⟨between, -, hrest⟩ | ⟨between, -, hrest⟩
  · -- the token was issued by the same visit or afterwards
    cases between with
    | nil =>
      obtain ⟨rfl, -⟩ := List.cons.inj hrest
      exact hissued.not_revoked hv
    | cons x between =>
      obtain ⟨-, rfl⟩ := List.cons.inj hrest
      exact hafter w (by simp) token hissued
  · cases between with
    | nil =>
      obtain ⟨rfl, -⟩ := List.cons.inj hrest
      exact hissued.not_revoked hv
    | cons x between =>
      obtain ⟨-, rfl⟩ := List.cons.inj hrest
      exact hkept v (by simp) hv

/-! ## The lobby -/

/-- A service and the visits that it has had. -/
structure Lobby where
  visits : List Visit
  service : Service

namespace Lobby

/-- A service that has had no visits. -/
def opened (s : Service) : Lobby := ⟨[], s⟩

/-- How a request that arrives is answered, and what that makes of the service. -/
def answer (l : Lobby) (a : Arrival) : Http.Response × Service :=
  { l.service with database := { l.service.database with fault := a.fault } }.respond a.request

/-- The lobby after a request that arrives. -/
def receive (l : Lobby) (a : Arrival) : Lobby := ⟨l.visits ++ [⟨a.request, (l.answer a).1⟩], (l.answer a).2⟩

def run (l : Lobby) (as : List Arrival) : Lobby := as.foldl receive l

/-- The tokens that are registered. -/
def rows (l : Lobby) : List AccessToken := l.service.database.tokens.rows

end Lobby

/-- What every run keeps of the visits and the tokens. -/
structure Memory.Tokens.Sound (mint : Nat → String) (vs : List Visit) (t : Tokens) : Prop where
  /-- The register holds the live tokens. -/
  live : ∀ user token, (∃ row ∈ t.rows, row.adminUser = user ∧ row.token = token) ↔ Live vs user token
  distinct : (t.rows.map AccessToken.adminUser).Nodup
  accepted : ∀ row ∈ t.rows, IsUser row.adminUser
  revoked : ∀ v ∈ vs, ∀ user, v.Revoked user → IsUser user
  /-- Every token that was issued is one of those that were minted so far. -/
  minted : ∀ v ∈ vs, ∀ user token, v.Issued user token → ∃ n < t.issued, token = mint n
  /-- No token was issued twice. -/
  apart : vs.Pairwise fun v w => ∀ user user' token, v.Issued user token → ¬ w.Issued user' token

namespace Memory.Tokens

variable {mint : Nat → String} {vs : List Visit} {v : Visit} {t t' : Tokens}

theorem empty_sound : Sound mint [] .empty where
  live user token := by
    constructor
    · rintro ⟨row, hrow, -⟩
      cases hrow
    · rintro ⟨before, v, after, heq, -⟩
      cases before <;> cases heq
  distinct := List.nodup_nil
  accepted _ hrow := by cases hrow
  revoked _ hv := by cases hv
  minted _ hv := by cases hv
  apart := .nil

theorem Sound.issues (h : Sound mint vs t) (hmint : Function.Injective mint) {user : String} {id : Int64}
    {moment : Instant} (huser : IsUser user) (hfree : ∀ row ∈ t.rows, row.adminUser ≠ user)
    (hissued : v.Issued user (mint t.issued)) :
    Sound mint (vs ++ [v]) ⟨t.rows ++ [⟨id, mint t.issued, user, moment⟩], t.used + 1, t.issued + 1⟩ where
  live user' token := by
    have hv : v.Issued user' token ↔ user = user' ∧ mint t.issued = token := by
      constructor
      · exact hissued.unique
      · rintro ⟨rfl, rfl⟩
        exact hissued
    have hkept : ¬ v.Revoked user' := hissued.not_revoked
    simp only [live_concat_iff, ← h.live, hv, hkept, not_false_eq_true, and_true, List.mem_append, List.mem_singleton,
      or_and_right, exists_or, exists_eq_left]
    exact or_comm
  distinct := by
    rw [List.map_append, List.nodup_append]
    refine ⟨h.distinct, List.pairwise_singleton _ _, ?_⟩
    simpa using hfree
  accepted row hrow := by
    rcases List.mem_append.mp hrow with hrow | hrow
    · exact h.accepted row hrow
    · cases List.mem_singleton.mp hrow
      exact huser
  revoked w hw user' hrevoked := by
    rcases List.mem_append.mp hw with hw | hw
    · exact h.revoked w hw user' hrevoked
    · cases List.mem_singleton.mp hw
      exact absurd hrevoked hissued.not_revoked
  minted w hw user' token hw' := by
    rcases List.mem_append.mp hw with hw | hw
    · obtain ⟨n, hn, rfl⟩ := h.minted w hw user' token hw'
      exact ⟨n, Nat.lt_succ_of_lt hn, rfl⟩
    · cases List.mem_singleton.mp hw
      exact ⟨t.issued, Nat.lt_succ_self _, (hissued.unique hw').2.symm⟩
  apart := by
    rw [List.pairwise_append]
    refine ⟨h.apart, List.pairwise_singleton _ _, fun w hw x hx user' user'' token hw' hx' => ?_⟩
    cases List.mem_singleton.mp hx
    obtain ⟨n, hn, rfl⟩ := h.minted w hw user' token hw'
    -- a token that was minted before is another one than that which is minted now
    exact absurd (hmint (hissued.unique hx').2) (Nat.ne_of_gt hn)

/-- A visit that issues nothing adds no issued token. -/
theorem Sound.minted_concat (h : Sound mint vs t) (hcount : t'.issued = t.issued)
    (hissued : ∀ user token, ¬ v.Issued user token) :
    ∀ w ∈ vs ++ [v], ∀ user token, w.Issued user token → ∃ n < t'.issued, token = mint n := by
  intro w hw user token hw'
  rcases List.mem_append.mp hw with hw | hw
  · rw [hcount]
    exact h.minted w hw user token hw'
  · cases List.mem_singleton.mp hw
    exact absurd hw' (hissued user token)

theorem Sound.apart_concat (h : Sound mint vs t) (hissued : ∀ user token, ¬ v.Issued user token) :
    (vs ++ [v]).Pairwise fun v w => ∀ user user' token, v.Issued user token → ¬ w.Issued user' token := by
  rw [List.pairwise_append]
  refine ⟨h.apart, List.pairwise_singleton _ _, fun w _ x hx user user' token _ => ?_⟩
  cases List.mem_singleton.mp hx
  exact hissued user' token

theorem Sound.revokes (h : Sound mint vs t) {user : String} (hheld : ∃ row ∈ t.rows, row.adminUser = user)
    (hrevoked : v.Revoked user) : Sound mint (vs ++ [v]) (t.revoke user).2 where
  live user' token := by
    have hv : v.Revoked user' ↔ user = user' := ⟨hrevoked.unique, fun heq => heq ▸ hrevoked⟩
    have hnew : ¬ v.Issued user' token := fun hissued => hissued.not_revoked hrevoked
    rw [live_concat_iff, ← h.live, hv]
    constructor
    · rintro ⟨row, hrow, rfl, rfl⟩
      obtain ⟨hrow, hne⟩ := List.mem_filter.mp hrow
      exact .inr ⟨⟨row, hrow, rfl, rfl⟩, (bne_iff_ne.mp hne).symm⟩
    · rintro (hissued | ⟨⟨row, hrow, rfl, rfl⟩, hne⟩)
      · exact absurd hissued hnew
      · exact ⟨row, List.mem_filter.mpr ⟨hrow, bne_iff_ne.mpr (Ne.symm hne)⟩, rfl, rfl⟩
  distinct := h.distinct.sublist (List.filter_sublist.map _)
  accepted row hrow := h.accepted row (List.mem_filter.mp hrow).1
  revoked w hw user' hw' := by
    rcases List.mem_append.mp hw with hw | hw
    · exact h.revoked w hw user' hw'
    · cases List.mem_singleton.mp hw
      obtain ⟨row, hrow, rfl⟩ := hheld
      rw [← hrevoked.unique hw']
      exact h.accepted row hrow
  minted := h.minted_concat rfl fun _ _ hissued => hissued.not_revoked hrevoked
  apart := h.apart_concat fun _ _ hissued => hissued.not_revoked hrevoked

theorem Sound.spares (h : Sound mint vs t) (hissued : ∀ user token, ¬ v.Issued user token)
    (hrevoked : ∀ user, ¬ v.Revoked user) (hrows : t'.rows = t.rows) (hcount : t'.issued = t.issued) :
    Sound mint (vs ++ [v]) t' where
  live user token := by
    rw [hrows, h.live, live_concat_iff]
    simp [hissued, hrevoked]
  distinct := hrows ▸ h.distinct
  accepted := hrows ▸ h.accepted
  revoked w hw user hw' := by
    rcases List.mem_append.mp hw with hw | hw
    · exact h.revoked w hw user hw'
    · cases List.mem_singleton.mp hw
      exact absurd hw' (hrevoked user)
  minted := h.minted_concat hcount hissued
  apart := h.apart_concat hissued

theorem Sound.touched (h : Sound mint vs t) (hmint : Function.Injective mint) (ht : Touches mint t v t') :
    Sound mint (vs ++ [v]) t' := by
  cases ht with
  | issues huser hfree hissued => exact h.issues hmint huser hfree hissued
  | revokes hheld hrevoked => exact h.revokes hheld hrevoked
  | spares hissued hrevoked hrows hcount => exact h.spares hissued hrevoked hrows hcount

theorem Sound.row_unique (h : Sound mint vs t) {row row' : AccessToken} (hrow : row ∈ t.rows) (hrow' : row' ∈ t.rows)
    (huser : row.adminUser = row'.adminUser) : row = row' :=
  List.inj_on_of_nodup_map h.distinct hrow hrow' huser

/-- A user holds at most one live token. -/
theorem Sound.token_unique (h : Sound mint vs t) {user token token' : String} (hlive : Live vs user token)
    (hlive' : Live vs user token') : token = token' := by
  obtain ⟨row, hrow, rfl, rfl⟩ := (h.live user token).mpr hlive
  obtain ⟨row', hrow', huser, rfl⟩ := (h.live _ token').mpr hlive'
  rw [h.row_unique hrow hrow' huser.symm]

/-- Every token is issued by one visit only. -/
theorem Sound.issued_once (h : Sound mint vs t) {i j : Nat} {w : Visit} {user user' token : String}
    (hi : vs[i]? = some v) (hj : vs[j]? = some w) (hv : v.Issued user token) (hw : w.Issued user' token) : i = j := by
  obtain ⟨hilt, rfl⟩ := List.getElem?_eq_some_iff.mp hi
  obtain ⟨hjlt, rfl⟩ := List.getElem?_eq_some_iff.mp hj
  rcases Nat.lt_trichotomy i j with hlt | heq | hgt
  · exact absurd hw (List.pairwise_iff_getElem.mp h.apart i j hilt hjlt hlt user user' token hv)
  · exact heq
  · exact absurd hv (List.pairwise_iff_getElem.mp h.apart j i hjlt hilt hgt user' user token hw)

end Memory.Tokens

namespace Lobby

theorem receive_standing (l : Lobby) (a : Arrival) : l.service.Standing (l.receive a).service := by
  obtain ⟨hconfig, hmint⟩ := Service.respond_standing
    { l.service with database := { l.service.database with fault := a.fault } } a.request
  exact ⟨hconfig, hmint⟩

theorem receive_touches (l : Lobby) (a : Arrival) :
    Touches l.service.database.mint l.service.database.tokens ⟨a.request, (l.answer a).1⟩
      (l.receive a).service.database.tokens :=
  Service.touches { l.service with database := { l.service.database with fault := a.fault } } a.request

/-- Every run keeps the tokens sound, and what is set up. -/
theorem run_sound {mint : Nat → String} (hmint : Function.Injective mint) (as : List Arrival) :
    ∀ {l : Lobby}, l.service.database.mint = mint → l.service.database.tokens.Sound mint l.visits →
      (l.run as).service.database.tokens.Sound mint (l.run as).visits ∧ l.service.Standing (l.run as).service := by
  induction as with
  | nil => exact fun hl hsound => ⟨hsound, rfl, rfl⟩
  | cons a as ih =>
    rintro l rfl hsound
    obtain ⟨hconfig, hkept⟩ := l.receive_standing a
    obtain ⟨hrun, hconfig', hkept'⟩ := ih hkept (hsound.touched hmint (l.receive_touches a))
    exact ⟨hrun, hconfig'.trans hconfig, hkept'.trans hkept⟩

variable {l : Lobby} {mint : Nat → String} {r : Http.Request} {user : String}

/-- A token lets its bearer in exactly when it is live. -/
theorem status_ne_iff (hl : l.service.database.tokens.Sound mint l.visits) {route : Route} {written : List Char}
    {e : Endpoint} {token : String} (hroute : route? r.path = some (route, written))
    (he : route.endpoint? r.method = some e) (hcred : e.credential = .token) (hpresents : Presents r token) :
    (l.answer ⟨r, none⟩).1.status ≠ 401 ↔ ∃ user, Live l.visits user token := by
  have hstatus := Service.respond_status_iff
    (s := { l.service with database := { l.service.database with fault := none } }) hroute he fun _ _ => rfl
  have hcarries : Carries l.service.config.secret l.service.database.tokens.rows r e.credential ↔
      ∃ row ∈ l.service.database.tokens.rows, row.token = token := by
    rw [hcred]
    refine exists_congr fun row => and_congr_right fun _ => ?_
    rw [← presentedToken_eq_some_iff, presentedToken_eq_some_iff.mpr hpresents, Option.some_inj, eq_comm]
  have hlive : (∃ user, Live l.visits user token) ↔ ∃ row ∈ l.service.database.tokens.rows, row.token = token := by
    simp only [← hl.live]
    constructor
    · rintro ⟨user, row, hrow, -, htoken⟩
      exact ⟨row, hrow, htoken⟩
    · rintro ⟨row, hrow, htoken⟩
      exact ⟨row.adminUser, row, hrow, rfl, htoken⟩
  rw [hlive, ← hcarries, answer]
  exact (not_congr hstatus).trans not_not

/-- What an admin is told who asks for a token while the database works, and what becomes of the register. -/
theorem answer_of_applies (huser : IsUser user) (h : l.service.Applies r user) :
    (l.answer ⟨r, none⟩).1 = responseOf (fun t => told 201 "token" t.token) (Service.issuance user
        (l.service.database.tokens.issue l.service.database.mint l.service.database.moment user).1) ∧
      (l.receive ⟨r, none⟩).service.database.tokens =
        (l.service.database.tokens.issue l.service.database.mint l.service.database.moment user).2 :=
  Service.respond_of_applies (s := { l.service with database := { l.service.database with fault := none } })
    ⟨h.method, h.route, h.secret, h.body⟩ huser rfl

/-- A user who holds a token is issued no other one. -/
theorem conflict_of_live (hl : l.service.database.tokens.Sound mint l.visits) {token : String}
    (hlive : Live l.visits user token) (h : l.service.Applies r user) :
    (l.answer ⟨r, none⟩).1.status = 409 ∧ (l.receive ⟨r, none⟩).rows = l.rows := by
  obtain ⟨row, hrow, rfl, -⟩ := (hl.live user token).mpr hlive
  obtain ⟨hanswer, htokens⟩ := answer_of_applies (hl.accepted row hrow) h
  cases hheld : l.service.database.tokens.ofUser row.adminUser with
  | none => exact absurd rfl (Tokens.ofUser_eq_none_iff.mp hheld row hrow)
  | some held =>
    rw [Tokens.issue, hheld] at hanswer htokens
    exact ⟨by rw [hanswer]; rfl, by rw [rows, htokens]; rfl⟩

/-- A user who holds no token is issued one. -/
theorem created_of_not_live (hl : l.service.database.tokens.Sound mint l.visits) (huser : IsUser user)
    (hlive : ∀ token, ¬ Live l.visits user token) (h : l.service.Applies r user) :
    (l.answer ⟨r, none⟩).1.status = 201 ∧ ∃ token, Live (l.receive ⟨r, none⟩).visits user token := by
  have hfree : l.service.database.tokens.ofUser user = none :=
    Tokens.ofUser_eq_none_iff.mpr fun row hrow heq => hlive row.token ((hl.live _ _).mp ⟨row, hrow, heq, rfl⟩)
  obtain ⟨hanswer, -⟩ := answer_of_applies huser h
  rw [Tokens.issue, hfree] at hanswer
  have hstatus : (l.answer ⟨r, none⟩).1.status = 201 := by
    rw [hanswer]
    rfl
  obtain ⟨-, d, hd, hdraft⟩ := h.body
  refine ⟨hstatus, l.service.database.mint l.service.database.tokens.issued, live_concat_iff.mpr (.inl ?_)⟩
  refine ⟨h.method, h.route, ⟨d, hd, hdraft⟩, hstatus, ?_⟩
  rw [hanswer]
  rfl

/-- **What the visits tell is what the tokens do.** Let requests come to a service without tokens, in any order, and let
its database fail for any of them; every token that it mints is new. After every run, a token that is presented while
the database works lets its bearer in exactly when it was issued to some user, and the token of this user was not taken
away since. Every token is issued once, and a user holds at most one live token. An admin who asks for a token for such
a user is told of a conflict, and every token stays as it is; once the token has been taken away, the next one who asks
is issued a new one. All users in the register are without blanks around them and would be accepted as they are, so that
blanks do not make another user of one. -/
theorem tokens_follow_visits (s : Service) (hempty : s.database.tokens = .empty)
    (hmint : Function.Injective s.database.mint) (as : List Arrival) :
    let l := (opened s).run as
    (∀ (r : Http.Request) (route : Route) (written : List Char) (e : Endpoint) (token : String),
      route? r.path = some (route, written) → route.endpoint? r.method = some e → e.credential = .token →
      Presents r token → ((l.answer ⟨r, none⟩).1.status ≠ 401 ↔ ∃ user, Live l.visits user token)) ∧
    (∀ (i j : Nat) (v w : Visit) (user user' token : String), l.visits[i]? = some v → l.visits[j]? = some w →
      v.Issued user token → w.Issued user' token → i = j) ∧
    (∀ user token token', Live l.visits user token → Live l.visits user token' → token = token') ∧
    (∀ (r : Http.Request) (user token : String), Live l.visits user token → l.service.Applies r user →
      (l.answer ⟨r, none⟩).1.status = 409 ∧ (l.receive ⟨r, none⟩).rows = l.rows ∧
      ∀ user' token', Live (l.receive ⟨r, none⟩).visits user' token' ↔ Live l.visits user' token') ∧
    (∀ (r : Http.Request) (user : String) (before after : List Visit) (v : Visit), l.visits = before ++ v :: after →
      v.Revoked user → (∀ w ∈ after, ∀ token, ¬ w.Issued user token) → l.service.Applies r user →
      (l.answer ⟨r, none⟩).1.status = 201 ∧ ∃ token, Live (l.receive ⟨r, none⟩).visits user token) ∧
    (∀ row ∈ l.rows, Text.trim row.adminUser = row.adminUser ∧ (TokenDraft.mk row.adminUser).user = .ok row.adminUser) ∧
    (∀ row ∈ l.rows, ∀ row' ∈ l.rows, Text.trim row.adminUser = Text.trim row'.adminUser → row = row') := by
  intro l
  obtain ⟨hl, hstanding⟩ : l.service.database.tokens.Sound s.database.mint l.visits ∧ s.Standing l.service :=
    run_sound hmint as (l := opened s) rfl (hempty ▸ Tokens.empty_sound)
  refine ⟨fun r route written e token hroute he hcred => status_ne_iff hl hroute he hcred,
    fun i j v w user user' token => hl.issued_once, fun user token token' => hl.token_unique,
    fun r user token hlive h => ?_, fun r user before after v hvs hv hafter h => ?_, fun row hrow => ?_,
    fun row hrow row' hrow' htrim => ?_⟩
  · obtain ⟨hstatus, hrows⟩ := conflict_of_live hl hlive h
    refine ⟨hstatus, hrows, fun user' token' => ?_⟩
    have hnext := hl.touched hmint (hstanding.mint ▸ l.receive_touches ⟨r, none⟩)
    have hlive' := hnext.live user' token'
    rw [← rows, hrows] at hlive'
    exact hlive'.symm.trans (hl.live user' token')
  · have huser : IsUser user := hl.revoked v (by rw [hvs]; simp) user hv
    refine created_of_not_live hl huser (fun token => ?_) h
    rw [hvs]
    exact not_live_of_revoked hv hafter token
  · have huser := hl.accepted row hrow
    exact ⟨huser.trimmed, TokenDraft.user_eq_ok_iff.mpr ⟨huser.trimmed, huser⟩⟩
  · refine hl.row_unique hrow hrow' ?_
    rw [← (hl.accepted row hrow).trimmed, htrim, (hl.accepted row' hrow').trimmed]

/-- Tokens of more and more letters. -/
def lengthening (n : Nat) : String := .ofList (List.replicate (n + 1) 'x')

/-- A service with a secret and without tokens. -/
def fresh : Service := .new "key" "t" (Database.empty lengthening fun _ => .epoch)

/-- An admin asks for a token for a user. -/
def asking (spelling : String) : Http.Request :=
  ⟨"POST", "/api/v1/token", [("Admin-Token", "key"), ("Content-Type", "application/json")],
    Wire.encode (TokenDraft.mk spelling)⟩

/-- An admin takes the token of a user away. -/
def taking : Http.Request := ⟨"DELETE", "/api/v1/token/a@b.c", [("Admin-Token", "key")], []⟩

/-- The token of a user lets its bearer in, and the user gets no other one, however spelled, until it is taken away. -/
theorem tokens_follow_visits_fresh :
    (((opened fresh).run [⟨asking " a@b.c ", none⟩]).answer
      ⟨⟨"GET", "/api/v1/group/g", [("Authorization", "Bearer x")], []⟩, none⟩).1.status ≠ 401 ∧
    (((opened fresh).run [⟨asking " a@b.c ", none⟩]).answer ⟨asking "a@b.c\t", none⟩).1.status = 409 ∧
    (((opened fresh).run [⟨asking " a@b.c ", none⟩, ⟨taking, none⟩]).answer
      ⟨asking "a@b.c\t", none⟩).1.status = 201 := by
  have hmint : Function.Injective fresh.database.mint := fun m n h => by
    have hlength := congrArg (fun t : String => t.toList.length) h
    simpa [fresh, Service.new, Database.empty, lengthening] using hlength
  obtain ⟨hiff, -, -, hconflict, -⟩ := tokens_follow_visits fresh rfl hmint [⟨asking " a@b.c ", none⟩]
  obtain ⟨-, -, -, -, hagain, -⟩ := tokens_follow_visits fresh rfl hmint [⟨asking " a@b.c ", none⟩, ⟨taking, none⟩]
  have hlive : Live ((opened fresh).run [⟨asking " a@b.c ", none⟩]).visits "a@b.c" "x" :=
    ⟨[], _, [], rfl, ⟨rfl, ⟨_, rfl⟩, ⟨_, rfl, rfl⟩, by decide +kernel, by decide +kernel⟩, nofun⟩
  have hrevoked : Visit.Revoked ⟨taking, (((opened fresh).run [⟨asking " a@b.c ", none⟩]).answer ⟨taking, none⟩).1⟩
      "a@b.c" := ⟨rfl, ⟨_, rfl, rfl⟩, by decide +kernel⟩
  have happlies : ∀ s : Service, s.config.secret = "key" → s.Applies (asking "a@b.c\t") "a@b.c" := fun s hkey =>
    ⟨rfl, ⟨_, rfl⟩, hkey ▸ presentedSecret_eq_some_iff.mp rfl, rfl, _, rfl, rfl⟩
  exact ⟨(hiff _ _ _ _ "x" rfl rfl rfl (presentedToken_eq_some_iff.mp rfl)).mpr ⟨_, hlive⟩,
    (hconflict _ _ _ hlive (happlies _ rfl)).1, (hagain _ "a@b.c" _ [] _ rfl hrevoked nofun (happlies _ rfl)).1⟩

end Lobby

end Courier
