import Courier.Proofs.Admission
import Courier.Proofs.SubmissionEndings

/-!
# The routes for tokens

Two endpoints issue tokens and take them away. No call of another one touches the register of tokens
(`Call.SparesTokens`, `Endpoint.act_sparesTokens`, `respond_spares`), and no call at all changes how the service is set
up (`respond_standing`). A request to issue a token does so for an admin who names a user, while the database works
(`respond_of_applies`), and otherwise neither issues one nor claims to (`applies_or_refused`). A request to take a token
away says whether there was one (`revokes_or_refused`).
-/

namespace Courier

open Memory Api

/-! ## Users -/

/-- A user whom a token may be for: an address without blanks around it. -/
structure IsUser (user : String) : Prop where
  trimmed : Text.trim user = user
  address : isAddress user = true

theorem TokenDraft.user_eq_ok_iff {d : TokenDraft} {user : String} :
    d.user = .ok user ↔ Text.trim d.adminUser = user ∧ IsUser user := by
  unfold TokenDraft.user
  dsimp only
  split
  · next h =>
    constructor
    · intro heq
      cases heq
      exact ⟨rfl, Text.trim_trim _, h⟩
    · rintro ⟨rfl, -⟩
      rfl
  · next h =>
    refine ⟨nofun, ?_⟩
    rintro ⟨rfl, -, haddress⟩
    exact absurd haddress h

/-! ## What leaves the tokens alone -/

/-- A call by which no token comes or goes. -/
def Call.SparesTokens : Call → Prop
  | .issueToken _ | .revokeToken _ => False
  | _ => True

theorem Call.sparesTokens_of_lookup {c : Call} (h : c.IsLookup) : c.SparesTokens := by
  cases c with
  | issueToken => exact h.elim
  | revokeToken => exact h.elim
  | _ => exact trivial

namespace Service

/-- What is set up stays as it is. -/
structure Standing (s s' : Service) : Prop where
  config : s'.config = s.config
  mint : s'.database.mint = s.database.mint

theorem exchange_database {α : Type} (s : Service) (post : Except String Outgoing)
    (judge : Outgoing → Incoming → Except String α) :
    (s.exchange post judge).2.database = s.database ∧ (s.exchange post judge).2.config = s.config := by
  unfold exchange
  split
  · exact ⟨rfl, rfl⟩
  · split <;> exact ⟨rfl, rfl⟩

theorem answer_standing (c : Call) (s : Service) : s.Standing (answer c s).2 := by
  cases c with
  | sendEmail e => exact ⟨(s.exchange_database _ _).2, congrArg _ (s.exchange_database _ _).1⟩
  | post url body => exact ⟨(s.exchange_database _ _).2, congrArg _ (s.exchange_database _ _).1⟩
  | readMarker | keepMarker | enqueue => exact ⟨rfl, rfl⟩
  | _ =>
    cases h : s.database.fault with
    | some e =>
      simp only [answer, Database.answer?, Database.statement_of_fault h]
      exact ⟨rfl, rfl⟩
    | none =>
      simp only [answer, Database.answer?, Database.statement_of_none h]
      exact ⟨rfl, rfl⟩

theorem answer_tokens {c : Call} (hc : c.SparesTokens) (s : Service) :
    (answer c s).2.database.tokens = s.database.tokens := by
  cases c with
  | issueToken => exact hc.elim
  | revokeToken => exact hc.elim
  | sendEmail e => exact congrArg _ (s.exchange_database _ _).1
  | post url body => exact congrArg _ (s.exchange_database _ _).1
  | readMarker | keepMarker | enqueue => rfl
  | _ =>
    cases h : s.database.fault with
    | some e => simp only [answer, Database.answer?, Database.statement_of_fault h]
    | none => simp only [answer, Database.answer?, Database.statement_of_none h]

end Service

theorem Submission.create_sparesTokens (sub : Submission) (r : Request) : (sub.create r).Within Call.SparesTokens := by
  unfold create
  refine ((prepare_within r).mono fun _ => Call.sparesTokens_of_lookup).bind fun a => ?_
  cases a with
  | error e => exact trivial
  | ok n =>
    refine ((sub.handoff n).run_within_of trivial trivial trivial fun _ => trivial).bind fun b => ?_
    rcases b with e | ⟨⟩ <;> exact trivial

namespace Api

theorem withBody_within {α : Type} [Wire α] {P : Call → Prop} {r : Http.Request} {f : α → Plan Http.Response}
    (hf : ∀ a, (f a).Within P) : (withBody r f).Within P := by
  unfold withBody
  split
  · exact hf _
  · exact trivial

theorem withId_within {P : Call → Prop} {parameter : String} {f : Int64 → Plan Http.Response}
    (hf : ∀ id, (f id).Within P) : (withId parameter f).Within P := by
  unfold withId
  split
  · exact hf _
  · exact trivial

theorem Credential.check_sparesTokens (secret : String) (r : Http.Request) (cred : Credential) :
    (cred.check secret r).Within Call.SparesTokens := by
  cases cred with
  | none => exact trivial
  | admin => exact trivial
  | token =>
    rw [check]
    unfold checkToken
    split
    · exact trivial
    · refine ⟨trivial, fun reply => ?_⟩
      rcases reply with e | _ | row <;> exact trivial

/-- Tokens are issued and taken away by the two endpoints for that only. -/
theorem Endpoint.act_sparesTokens (c : Config) (r : Http.Request) (parameter : String) {e : Endpoint}
    (hissue : e ≠ .issueToken) (hrevoke : e ≠ .revokeToken) : (e.act c r parameter).Within Call.SparesTokens := by
  cases e <;> rw [Endpoint.act]
  case health => exact trivial
  case submit => exact withBody_within fun request => (c.submission.create_sparesTokens request).bind fun _ => trivial
  case showFailure =>
    refine withId_within fun id => ⟨trivial, fun reply => ?_⟩
    rcases reply with e | _ | record <;> exact trivial
  case issueToken => exact absurd rfl hissue
  case showToken => exact ⟨trivial, fun _ => trivial⟩
  case revokeToken => exact absurd rfl hrevoke
  case addChannel =>
    refine withBody_within fun d => Plan.Within.bind ?_ fun _ => trivial
    unfold Registration.addChannel
    split
    · exact trivial
    · exact ⟨trivial, fun _ => trivial⟩
  case showChannel => exact withId_within fun id => ⟨trivial, fun _ => trivial⟩
  case removeChannel => exact withId_within fun id => ⟨trivial, fun _ => trivial⟩
  case listGroup => exact ⟨trivial, fun _ => trivial⟩
  case listPlatform =>
    refine Plan.Within.bind ?_ fun _ => trivial
    unfold Registration.platformMembers
    split
    · exact trivial
    · exact ⟨trivial, fun _ => trivial⟩

theorem Endpoint.answer_sparesTokens (c : Config) (r : Http.Request) (name : String) (written : List Char)
    {e : Endpoint} (hissue : e ≠ .issueToken) (hrevoke : e ≠ .revokeToken) :
    (e.answer c r name written).Within Call.SparesTokens := by
  refine (e.credential.check_sparesTokens c.secret r).bind fun a => ?_
  rcases a with err | ⟨⟩
  · exact trivial
  · dsimp only
    split
    · exact trivial
    · exact e.act_sparesTokens c r _ hissue hrevoke

/-! ## The two routes -/

/-- What is written in place of a parameter that a route does not have. -/
theorem written_eq_nil {path : String} {route : Route} {written : List Char} (h : route? path = some (route, written))
    (hroute : route.parameter? = none) : written = [] := by
  unfold route? at h
  split at h
  · obtain ⟨route', -, hmatch⟩ := List.exists_of_findSome?_eq_some h
    obtain ⟨p, hp, heq⟩ := Option.map_eq_some_iff.mp hmatch
    cases heq
    simp only [Route.match?, hroute] at hp
    split at hp
    · exact (Option.some.inj hp).symm
    · cases hp
  · cases h

theorem Route.endpoint?_issueToken_iff {route : Route} {method : String} :
    route.endpoint? method = some .issueToken ↔ route = .tokens ∧ method = "POST" := by
  cases route <;> simp [Route.endpoint?, Route.endpoints, Route.methodNames]

theorem Route.endpoint?_revokeToken_iff {route : Route} {method : String} :
    route.endpoint? method = some .revokeToken ↔ route = .tokenOfUser ∧ method = "DELETE" := by
  cases route <;> simp [Route.endpoint?, Route.endpoints, Route.methodNames]
  rintro rfl
  exact ⟨nofun, nofun⟩

end Api

namespace Service

variable {s : Service} {r : Http.Request} {written : List Char} {user : String}

/-- The service with another register of tokens, one statement later. -/
def tokened (s : Service) (t : Tokens) : Service :=
  { s with database := { s.database with tokens := t, statements := s.database.statements + 1 } }

/-- A request asks, as an admin may, to issue a token to a user. -/
structure Applies (s : Service) (r : Http.Request) (user : String) : Prop where
  method : r.method = "POST"
  route : ∃ written, route? r.path = some (.tokens, written)
  secret : CarriesSecret s.config.secret r
  body : declaresJson r = true ∧ ∃ d : TokenDraft, Wire.decode r.body = .ok d ∧ Text.trim d.adminUser = user

/-- What is told when a token was asked for. -/
def issuance (user : String) : Option AccessToken → Except ServiceError AccessToken
  | none => .error (.conflict ("A token already exists for " ++ user))
  | some t => .ok t

theorem answer_issueToken (s : Service) (user : String) : answer (.issueToken user) s =
    match s.database.fault with
    | some e => (.error (Database.errorText e), s)
    | none => (.ok (s.database.tokens.issue s.database.mint s.database.moment user).1,
        s.tokened (s.database.tokens.issue s.database.mint s.database.moment user).2) := by
  simp only [answer, Database.answer?]
  cases h : s.database.fault with
  | some e => rw [Database.statement_of_fault h]
  | none =>
    rw [Database.statement_of_none h]
    rfl

theorem answer_revokeToken (s : Service) (user : String) : answer (.revokeToken user) s =
    match s.database.fault with
    | some e => (.error (Database.errorText e), s)
    | none => (.ok (s.database.tokens.revoke user).1, s.tokened (s.database.tokens.revoke user).2) := by
  simp only [answer, Database.answer?]
  cases h : s.database.fault with
  | some e => rw [Database.statement_of_fault h]
  | none =>
    rw [Database.statement_of_none h]
    rfl

theorem issueToken_run {d : TokenDraft} (huser : d.user = .ok user) (hfault : s.database.fault = none) :
    (Registration.issueToken d).run answer s =
      (issuance user (s.database.tokens.issue s.database.mint s.database.moment user).1,
        s.tokened (s.database.tokens.issue s.database.mint s.database.moment user).2) := by
  unfold Registration.issueToken
  rw [huser]
  simp only [Plan.run, answer_issueToken, hfault]
  cases (s.database.tokens.issue s.database.mint s.database.moment user).1 <;> rfl

theorem bodyOf_eq_ok_iff {α : Type} [Wire α] {a : α} :
    bodyOf α r = .ok a ↔ declaresJson r = true ∧ Wire.decode r.body = .ok a := by
  unfold bodyOf
  split
  · next h =>
    cases Wire.decode (α := α) r.body with
    | ok b => simp [h]
    | error e => simp
  · next h => simp [h]

theorem check_of_carriesSecret (h : CarriesSecret s.config.secret r) :
    ∃ n, (Credential.admin.check s.config.secret r).run answer s = (.ok (), s.tallied n) := by
  obtain ⟨a, n, hcheck, -, -, hverdict⟩ := check_run s r .admin
  have ha := hverdict nofun
  rw [(verdict_ok_iff .admin).mpr h] at ha
  exact ⟨n, ha ▸ hcheck⟩

/-- What is told to an admin who asks for a token, and what becomes of the tokens. -/
theorem respond_of_applies (h : s.Applies r user) (huser : IsUser user) (hfault : s.database.fault = none) :
    (s.respond r).1 = responseOf (fun t => told 201 "token" t.token)
        (issuance user (s.database.tokens.issue s.database.mint s.database.moment user).1) ∧
      (s.respond r).2.database.tokens = (s.database.tokens.issue s.database.mint s.database.moment user).2 := by
  obtain ⟨hmethod, ⟨written, hroute⟩, hsecret, hjson, d, hd, hdraft⟩ := h
  obtain rfl := written_eq_nil hroute rfl
  have he : Route.tokens.endpoint? r.method = some .issueToken := Route.endpoint?_issueToken_iff.mpr ⟨rfl, hmethod⟩
  obtain ⟨n, hcheck⟩ := check_of_carriesSecret hsecret
  have hrun := issueToken_run (s := s.tallied n) (TokenDraft.user_eq_ok_iff.mpr ⟨hdraft, huser⟩) hfault
  have hbody : bodyOf TokenDraft r = .ok d := bodyOf_eq_ok_iff.mpr ⟨hjson, hd⟩
  have hparameter : unescape (Route.tokens.parameter?.getD "") [] = .ok "" := rfl
  simp only [respond_of_admitted hroute he hcheck, hparameter, Endpoint.act, withBody, hbody, Plan.map, Plan.run_bind,
    hrun, Plan.run, sent, hmethod, Prod.map]
  exact ⟨rfl, rfl⟩

/-- An admin who does not know the secret is not let in, and the tokens stay as they are. -/
theorem respond_of_not_carriesSecret {route : Route} {e : Endpoint} (hroute : route? r.path = some (route, written))
    (he : route.endpoint? r.method = some e) (hadmin : e.credential = .admin)
    (h : ¬ CarriesSecret s.config.secret r) :
    (s.respond r).1.status = 401 ∧ (s.respond r).2.database.tokens = s.database.tokens := by
  have hcarry : ¬ Carries s.config.secret s.database.tokens.rows r e.credential := hadmin ▸ h
  obtain ⟨n, -, hstate⟩ := respond_frame hroute he hcarry
  refine ⟨(respond_status_iff hroute he (canJudge_of_admin hadmin)).mpr hcarry, ?_⟩
  rw [hstate]
  rfl

/-- Nobody else is issued a token by a request to the route for that. -/
theorem applies_or_refused (hmethod : r.method = "POST") (hroute : route? r.path = some (.tokens, written)) :
    (∃ user, s.Applies r user ∧ IsUser user ∧ s.database.fault = none) ∨
      ((s.respond r).1.status ≠ 201 ∧ (s.respond r).2.database.tokens = s.database.tokens) := by
  have he : Route.tokens.endpoint? r.method = some .issueToken := Route.endpoint?_issueToken_iff.mpr ⟨rfl, hmethod⟩
  by_cases hsecret : CarriesSecret s.config.secret r
  · obtain rfl := written_eq_nil hroute rfl
    obtain ⟨n, hcheck⟩ := check_of_carriesSecret hsecret
    have hparameter : unescape (Route.tokens.parameter?.getD "") [] = .ok "" := rfl
    have hrespond : s.respond r = (Endpoint.issueToken.act s.config r "").run answer (s.tallied n) := by
      simp only [respond_of_admitted hroute he hcheck, hparameter, hmethod]
      rfl
    rw [hrespond, Endpoint.act, withBody]
    cases hbody : bodyOf TokenDraft r with
    | error response =>
      have hmem := status_of_bodyOf_error hbody
      refine .inr ⟨fun hstatus => ?_, rfl⟩
      have hstatus : response.status = 201 := hstatus
      simp [hstatus] at hmem
    | ok d =>
      obtain ⟨hjson, hd⟩ := bodyOf_eq_ok_iff.mp hbody
      dsimp only
      unfold Registration.issueToken
      cases huser : d.user with
      | error e =>
        refine .inr ⟨fun hstatus => ?_, rfl⟩
        cases (TokenDraft.status_of_user_error huser).symm.trans hstatus
      | ok user =>
        obtain ⟨htrim, haccepted⟩ := TokenDraft.user_eq_ok_iff.mp huser
        cases hfault : s.database.fault with
        | none => exact .inl ⟨user, ⟨hmethod, ⟨_, hroute⟩, hsecret, hjson, d, hd, htrim⟩, haccepted, rfl⟩
        | some reason =>
          have hfault' : (s.tallied n).database.fault = some reason := hfault
          right
          simp only [Plan.map, Plan.run_bind, Plan.run, answer_issueToken, hfault']
          exact ⟨fun hstatus => (by cases hstatus), rfl⟩
  · obtain ⟨hstatus, htokens⟩ := respond_of_not_carriesSecret hroute he rfl hsecret
    exact .inr ⟨by rw [hstatus]; decide, htokens⟩

/-- A request to take the token of a user away is answered by whether there was one, or leaves the tokens alone. -/
theorem revokes_or_refused (hmethod : r.method = "DELETE") (hroute : route? r.path = some (.tokenOfUser, written)) :
    (∃ user, unescape "user" written = .ok user ∧
      (s.respond r).1.status = (if (s.database.tokens.revoke user).1 then 200 else 404) ∧
      (s.respond r).2.database.tokens = (s.database.tokens.revoke user).2) ∨
      ((s.respond r).1.status ≠ 200 ∧ (s.respond r).2.database.tokens = s.database.tokens) := by
  have he : Route.tokenOfUser.endpoint? r.method = some .revokeToken :=
    Route.endpoint?_revokeToken_iff.mpr ⟨rfl, hmethod⟩
  have hname : Route.tokenOfUser.parameter?.getD "" = "user" := rfl
  by_cases hsecret : CarriesSecret s.config.secret r
  · obtain ⟨n, hcheck⟩ := check_of_carriesSecret hsecret
    rw [respond_of_admitted hroute he hcheck, hname]
    cases hparameter : unescape "user" written with
    | error reason =>
      right
      simp only [sent, hmethod]
      exact ⟨fun hstatus => (by cases hstatus), rfl⟩
    | ok user =>
      cases hfault : s.database.fault with
      | some reason =>
        have hfault' : (s.tallied n).database.fault = some reason := hfault
        right
        simp only [Endpoint.act, Registration.revokeToken, Plan.map, Plan.run_bind, Plan.run, answer_revokeToken,
          hfault', hmethod]
        exact ⟨fun hstatus => (by cases hstatus), rfl⟩
      | none =>
        have hfault' : (s.tallied n).database.fault = none := hfault
        refine .inl ⟨user, rfl, ?_⟩
        have htokens : (s.tallied n).database.tokens = s.database.tokens := rfl
        simp only [Endpoint.act, Registration.revokeToken, Plan.map, Plan.run_bind, Plan.run, answer_revokeToken,
          hfault', hmethod, htokens]
        refine ⟨?_, rfl⟩
        cases (s.database.tokens.revoke user).1 <;> rfl
  · obtain ⟨hstatus, htokens⟩ := respond_of_not_carriesSecret hroute he rfl hsecret
    exact .inr ⟨by rw [hstatus]; decide, htokens⟩

/-- All other requests leave the tokens alone. -/
theorem respond_spares (hissue : ∀ written, r.method = "POST" → route? r.path ≠ some (.tokens, written))
    (hrevoke : ∀ written, r.method = "DELETE" → route? r.path ≠ some (.tokenOfUser, written)) :
    (s.respond r).2.database.tokens = s.database.tokens := by
  have hwithin : (answerInFull s.config r).Within Call.SparesTokens := by
    unfold answerInFull
    split
    · exact trivial
    · next route written hroute =>
      split
      · exact trivial
      · next e he =>
        refine e.answer_sparesTokens s.config r _ written ?_ ?_
        · rintro rfl
          obtain ⟨rfl, hmethod⟩ := Route.endpoint?_issueToken_iff.mp he
          exact hissue written hmethod hroute
        · rintro rfl
          obtain ⟨rfl, hmethod⟩ := Route.endpoint?_revokeToken_iff.mp he
          exact hrevoke written hmethod hroute
  have hrespond : (Api.respond s.config r).Within Call.SparesTokens := hwithin.bind fun _ => trivial
  refine hrespond.keeps (I := fun s' : Service => s'.database.tokens = s.database.tokens) (fun c s' hc hs' => ?_) rfl
  rw [answer_tokens hc, hs']

theorem respond_standing (s : Service) (r : Http.Request) : s.Standing (s.respond r).2 := by
  refine (Plan.within_true (Api.respond s.config r)).keeps (I := s.Standing) (fun c s' _ hs' => ?_) ⟨rfl, rfl⟩
  obtain ⟨hconfig, hmint⟩ := answer_standing c s'
  exact ⟨hconfig.trans hs'.config, hmint.trans hs'.mint⟩

end Service

end Courier
