import Courier.Proofs.Blanks
import Courier.Proofs.Unfolding
import Courier.Service

/-!
# Admission

Whether a request is let in to an endpoint is decided by two of its headers, the admin secret and the tokens that are
registered (`verdict`), and by nothing else as long as tokens can be looked up (`check_run`). What a request carries is
said by the headers themselves (`Shows`, `Presents`, `Carries`). Whoever is let in is never told to authenticate
(`Endpoint.act_ends`), so the status 401 is that of the requests which do not carry what is asked for
(`respond_status_iff`). Those leave nothing behind but a count of statements, and are told nothing that depends on
anything else (`turned_away`).
-/

namespace Courier

/-! ## What a request carries -/

namespace Http.Request

/-- The first header with a name has a value, and the value is printable. -/
def Shows (r : Request) (name value : String) : Prop :=
  ∃ before key after, r.headers = before ++ (key, value) :: after ∧ key.toList.map Char.toLower = name.toList ∧
    (∀ h ∈ before, h.1.toList.map Char.toLower ≠ name.toList) ∧ ∀ c ∈ value.toList, isPrintable c = true

theorem header?_eq_some_iff {r : Request} {name value : String} : r.header? name = some value ↔ r.Shows name value := by
  unfold header?
  constructor
  · intro h
    split at h
    · next key v hfind =>
      split at h
      · next hall =>
        cases h
        obtain ⟨hkey, before, after, heq, hbefore⟩ := List.find?_eq_some_iff_append.mp hfind
        exact ⟨before, key, after, heq, eq_of_beq hkey, fun h hh => by simpa using hbefore h hh,
          List.all_eq_true.mp hall⟩
      · cases h
    · cases h
  · rintro ⟨before, key, after, heq, hkey, hbefore, hall⟩
    have hfind : r.headers.find? (fun h => h.1.toList.map Char.toLower == name.toList) = some (key, value) :=
      List.find?_eq_some_iff_append.mpr
        ⟨beq_iff_eq.mpr hkey, before, after, heq, fun h hh => by simpa using hbefore h hh⟩
    rw [hfind]
    exact if_pos (List.all_eq_true.mpr hall)

end Http.Request

namespace Api

/-- The token in a value: what follows the mark, or all of it when there is no mark. Blanks around either do not
count, and there has to be something. -/
inductive TokenIn (value : String) : String → Prop
  | marked {rest : String} (hmark : Text.trimStart value = bearerMark ++ rest) (hne : Text.trim rest ≠ "") :
    TokenIn value (Text.trim rest)
  | plain (hmark : ∀ rest, Text.trimStart value ≠ bearerMark ++ rest) (hne : Text.trim value ≠ "") :
    TokenIn value (Text.trim value)

/-- A request presents a token. -/
def Presents (r : Http.Request) (token : String) : Prop := ∃ value, r.Shows "authorization" value ∧ TokenIn value token

/-- A request carries the admin secret. -/
def CarriesSecret (secret : String) (r : Http.Request) : Prop :=
  ∃ value, r.Shows "admin-token" value ∧ Text.trim value ≠ "" ∧ Text.trim value = secret

/-- A request carries one of the registered tokens. -/
def CarriesToken (rows : List AccessToken) (r : Http.Request) : Prop := ∃ row ∈ rows, Presents r row.token

/-- A request carries what an endpoint asks for. -/
def Carries (secret : String) (rows : List AccessToken) (r : Http.Request) : Credential → Prop
  | .none => True
  | .admin => CarriesSecret secret r
  | .token => CarriesToken rows r

theorem unlessEmpty_eq_some_iff {s t : String} : unlessEmpty s = some t ↔ s ≠ "" ∧ s = t := by
  unfold unlessEmpty
  split
  · next h => simp [h]
  · next h => simp [h]

theorem presentedSecret_eq_some_iff {r : Http.Request} {t : String} :
    presentedSecret r = some t ↔ ∃ value, r.Shows "admin-token" value ∧ Text.trim value ≠ "" ∧ Text.trim value = t := by
  simp only [presentedSecret, Option.bind_eq_some_iff, Http.Request.header?_eq_some_iff, unlessEmpty_eq_some_iff]

/-- A token is looked for behind the mark, or in the whole value when there is no mark. -/
theorem bearerToken_cases (value : String) :
    (∃ rest, Text.trimStart value = bearerMark ++ rest ∧ bearerToken value = unlessEmpty (Text.trim rest)) ∨
      (∀ rest, Text.trimStart value ≠ bearerMark ++ rest) ∧ bearerToken value = unlessEmpty (Text.trim value) := by
  have heq : bearerToken value =
      unlessEmpty (Text.trim (.ofList (withoutMark bearerMark.toList (Text.trimStart value).toList))) := by
    rw [bearerToken, Text.trim, Text.trimStart, String.toList_ofList, String.toList_ofList]
  rw [heq, withoutMark]
  by_cases h : bearerMark.toList.isPrefixOf (Text.trimStart value).toList = true
  · obtain ⟨rest, hrest⟩ := List.isPrefixOf_iff_prefix.mp h
    refine .inl ⟨.ofList rest, ?_, ?_⟩
    · rw [← String.toList_inj, String.toList_append, String.toList_ofList, hrest]
    · rw [if_pos h, ← hrest, List.drop_left]
  · refine .inr ⟨fun rest hrest => h ?_, ?_⟩
    · rw [hrest, String.toList_append]
      exact List.isPrefixOf_iff_prefix.mpr (List.prefix_append _ _)
    · rw [if_neg h, String.ofList_toList, Text.trim_trimStart]

theorem bearerToken_eq_some_iff {value token : String} : bearerToken value = some token ↔ TokenIn value token := by
  rcases bearerToken_cases value with ⟨rest, hrest, heq⟩ | ⟨hnone, heq⟩
  · rw [heq, unlessEmpty_eq_some_iff]
    constructor
    · rintro ⟨hne, rfl⟩
      exact .marked hrest hne
    · intro h
      cases h with
      | @marked rest' hmark hne =>
        obtain rfl : rest = rest' := (String.append_right_inj bearerMark).mp (hrest.symm.trans hmark)
        exact ⟨hne, rfl⟩
      | plain hmark hne => exact absurd hrest (hmark rest)
  · rw [heq, unlessEmpty_eq_some_iff]
    constructor
    · rintro ⟨hne, rfl⟩
      exact .plain hnone hne
    · intro h
      cases h with
      | marked hmark hne => exact absurd hmark (hnone _)
      | plain hmark hne => exact ⟨hne, rfl⟩

theorem presentedToken_eq_some_iff {r : Http.Request} {t : String} : presentedToken r = some t ↔ Presents r t := by
  simp only [presentedToken, Option.bind_eq_some_iff, Http.Request.header?_eq_some_iff, bearerToken_eq_some_iff,
    Presents]

/-! ## What is decided about a request -/

/-- What is said about a request when looking tokens up works. -/
def verdict (secret : String) (rows : List AccessToken) (r : Http.Request) : Credential → Except ServiceError Unit
  | .none => .ok ()
  | .admin => checkSecret secret r
  | .token =>
    match presentedToken r with
    | none => .error (.authentication "authorization token is required")
    | some t =>
      if ∃ row ∈ rows, row.token = t then .ok () else .error (.authentication "invalid authorization token")

variable {secret : String} {rows : List AccessToken} {r : Http.Request}

theorem verdict_ok_iff (cred : Credential) : verdict secret rows r cred = .ok () ↔ Carries secret rows r cred := by
  cases cred with
  | none => exact ⟨fun _ => trivial, fun _ => rfl⟩
  | admin =>
    have hcarries : CarriesSecret secret r ↔ presentedSecret r = some secret := presentedSecret_eq_some_iff.symm
    rw [Carries, hcarries, verdict, checkSecret]
    cases presentedSecret r with
    | none => simp
    | some t =>
      by_cases h : t = secret <;> simp [h]
  | token =>
    rw [Carries, verdict]
    simp only [CarriesToken, ← presentedToken_eq_some_iff]
    cases presentedToken r with
    | none => simp
    | some t =>
      by_cases h : ∃ row ∈ rows, row.token = t
      · obtain ⟨row, hrow, rfl⟩ := h
        exact ⟨fun _ => ⟨row, hrow, rfl⟩, fun _ => if_pos ⟨row, hrow, rfl⟩⟩
      · simp only [if_neg h, reduceCtorEq, false_iff]
        rintro ⟨row, hrow, heq⟩
        exact absurd ⟨row, hrow, (Option.some.inj heq).symm⟩ h

/-- Whoever is refused has not authenticated. -/
theorem verdict_error {cred : Credential} {e : ServiceError} (h : verdict secret rows r cred = .error e) :
    ∃ reason, e = .authentication reason := by
  cases cred with
  | none => cases h
  | admin =>
    simp only [verdict, checkSecret] at h
    split at h
    · exact ⟨_, (Except.error.inj h).symm⟩
    · split at h
      · cases h
      · exact ⟨_, (Except.error.inj h).symm⟩
  | token =>
    simp only [verdict] at h
    split at h
    · exact ⟨_, (Except.error.inj h).symm⟩
    · split at h
      · cases h
      · exact ⟨_, (Except.error.inj h).symm⟩

/-- Only two headers count. -/
theorem verdict_congr {r' : Http.Request} (hsecret : r'.header? "admin-token" = r.header? "admin-token")
    (htoken : r'.header? "authorization" = r.header? "authorization") :
    verdict secret rows r' = verdict secret rows r := by
  funext cred
  cases cred with
  | none => rfl
  | admin => simp only [verdict, checkSecret, presentedSecret, hsecret]
  | token => simp only [verdict, presentedToken, htoken]

end Api

/-! ## Who is let in is not turned away -/

/-- Not a failure to authenticate. -/
def Spared {α : Type} : Except ServiceError α → Prop
  | .ok _ => True
  | .error e => e.status ≠ 401

theorem RelayError.toService_status (e : RelayError) : e.toService.status ≠ 401 := by
  cases e <;> simp [toService, ServiceError.status]

theorem TokenDraft.status_of_user_error {d : TokenDraft} {e : ServiceError} (h : d.user = .error e) :
    e.status = 400 := by
  simp only [TokenDraft.user] at h
  split at h
  · cases h
  · cases h
    rfl

namespace Api

variable {α : Type}

theorem answered_spared (a : Except String α) : Spared (Registration.answered a) := by
  cases a <;> simp [Registration.answered, Spared, ServiceError.status]

theorem found_spared (missing : String) (a : Except String (Option α)) : Spared (Registration.found missing a) := by
  rcases a with e | _ | a <;> simp [Registration.found, Spared, ServiceError.status]

theorem responseOf_ends {p : Plan (Except ServiceError α)} {f : α → Http.Response} (hp : p.Ends Spared)
    (hf : ∀ a, (f a).status ≠ 401) : (p.map (responseOf f)).Ends (·.status ≠ 401) :=
  hp.bind fun a ha => by
    cases a with
    | ok a => exact hf a
    | error e => exact ha

/-- The status of an answer to a body that is not what it should be. -/
theorem status_of_bodyOf_error [Wire α] {r : Http.Request} {response : Http.Response}
    (h : bodyOf α r = .error response) : response.status ∈ [400, 415, 422] := by
  unfold bodyOf at h
  split at h
  · split at h
    · cases h
    · next problem _ =>
      cases h
      cases problem <;> simp [bodyRefusal, Http.Response.plain]
  · cases h
    simp [Http.Response.plain]

theorem withBody_ends [Wire α] {r : Http.Request} {f : α → Plan Http.Response}
    (hf : ∀ a, (f a).Ends (·.status ≠ 401)) : (withBody r f).Ends (·.status ≠ 401) := by
  unfold withBody
  split
  · exact hf _
  · next h =>
    intro hstatus
    have hmem := status_of_bodyOf_error h
    rw [hstatus] at hmem
    simp at hmem

theorem withId_ends {parameter : String} {f : Int64 → Plan Http.Response} (hf : ∀ id, (f id).Ends (·.status ≠ 401)) :
    (withId parameter f).Ends (·.status ≠ 401) := by
  unfold withId
  split
  · exact hf _
  · simp [Plan.Ends, Http.Response.plain]

theorem shown_status [Wire α] (a : α) : (shown 200 a).status ≠ 401 := by simp [shown, Http.Response.json]

theorem listed_status (cs : List Channel) : (listed cs).status ≠ 401 := by simp [listed, Http.Response.json]

theorem view_ends (id : Int64) : (FailureLog.view id).Ends Spared := by
  rintro (e | _ | record)
  · simp [Plan.Ends, Spared, ServiceError.status]
  · simp [Plan.Ends, Spared, ServiceError.status]
  · show Spared (FailureLog.present id record)
    unfold FailureLog.present
    split <;> simp [Spared, ServiceError.status]

theorem addChannel_ends (d : ChannelDraft) : (Registration.addChannel d).Ends Spared := by
  unfold Registration.addChannel
  split
  · simp [Plan.Ends, Spared, ServiceError.status]
  · exact fun reply => answered_spared reply

theorem platformMembers_ends (name : String) : (Registration.platformMembers name).Ends Spared := by
  unfold Registration.platformMembers
  split
  · simp [Plan.Ends, Spared, ServiceError.status]
  · exact fun reply => answered_spared reply

/-- What an accepted request asks for is never answered as if it had not authenticated. -/
theorem Endpoint.act_ends (c : Config) (r : Http.Request) (parameter : String) (e : Endpoint) :
    (e.act c r parameter).Ends (·.status ≠ 401) := by
  cases e <;> rw [Endpoint.act]
  case health => simp [Plan.Ends, healthy, Http.Response.json]
  case submit =>
    refine withBody_ends fun request => (Plan.ends_true _).bind fun a _ => ?_
    cases a with
    | ok n => simp [Plan.Ends, told, Http.Response.json]
    | error err => exact err.toService_status
  case showFailure => exact withId_ends fun id => responseOf_ends (view_ends id) shown_status
  case issueToken =>
    refine withBody_ends fun d => ?_
    unfold Registration.issueToken
    cases h : d.user with
    | error err =>
      intro hstatus
      cases (TokenDraft.status_of_user_error h).symm.trans hstatus
    | ok user =>
      refine responseOf_ends (fun reply => ?_) fun t => by simp [told, Http.Response.json]
      rcases reply with err | _ | t <;> simp [Plan.Ends, Spared, ServiceError.status]
  case showToken => exact responseOf_ends (fun reply => found_spared _ reply) shown_status
  case revokeToken =>
    refine responseOf_ends (fun reply => answered_spared reply) fun b => ?_
    cases b <;> simp [told, errorResponse, ServiceError.status, Http.Response.json]
  case addChannel =>
    exact withBody_ends fun d => responseOf_ends (addChannel_ends d) fun c => by simp [shown, Http.Response.json]
  case showChannel => exact withId_ends fun id => responseOf_ends (fun reply => found_spared _ reply) shown_status
  case removeChannel =>
    refine withId_ends fun id => responseOf_ends (fun reply => answered_spared reply) fun b => ?_
    cases b <;> simp [errorResponse, ServiceError.status, Http.Response.json]
  case listGroup => exact responseOf_ends (fun reply => answered_spared reply) listed_status
  case listPlatform => exact responseOf_ends (platformMembers_ends parameter) listed_status

end Api

/-! ## Requests that are answered -/

theorem Memory.Tokens.find_eq_none_iff {tokens : Memory.Tokens} {t : String} :
    tokens.find t = none ↔ ¬ ∃ row ∈ tokens.rows, row.token = t := by
  simp [find, List.find?_eq_none]

namespace Service

open Api

/-- The service with another count of statements. -/
def tallied (s : Service) (n : Nat) : Service := { s with database := { s.database with statements := n } }

/-- No lookup of a token that a request needs fails. -/
def CanJudge (s : Service) (r : Http.Request) (cred : Credential) : Prop :=
  cred = .token → (∃ t, Presents r t) → s.database.fault = none

theorem canJudge_of_admin {s : Service} {r : Http.Request} {cred : Credential} (h : cred = .admin) :
    s.CanJudge r cred := fun htoken => by
  rw [h] at htoken
  cases htoken

theorem findToken_run (s : Service) (t : String) : (Registration.findToken t).run answer s =
    match s.database.fault with
    | some e => (.error (.database (Database.errorText e)), s)
    | none => (.ok (s.database.tokens.find t), s.tallied (s.database.statements + 1)) := by
  simp only [Registration.findToken, Plan.run, answer, Database.answer?]
  cases h : s.database.fault with
  | some e =>
    rw [Database.statement_of_fault h]
    rfl
  | none =>
    rw [Database.statement_of_none h]
    rfl

/-- Checking a credential changes nothing but the count of statements. When the lookup of the token does not fail, it
comes to the verdict, and when it fails, nobody is let in. -/
theorem check_run (s : Service) (r : Http.Request) (cred : Credential) :
    ∃ a n, (cred.check s.config.secret r).run answer s = (a, s.tallied n) ∧ n ≤ s.database.statements + 1 ∧
      (a = .ok () → s.CanJudge r cred) ∧
      (s.CanJudge r cred → a = verdict s.config.secret s.database.tokens.rows r cred) := by
  cases cred with
  | none => exact ⟨_, s.database.statements, rfl, Nat.le_succ _, fun _ h => (by cases h), fun _ => rfl⟩
  | admin => exact ⟨_, s.database.statements, rfl, Nat.le_succ _, fun _ h => (by cases h), fun _ => rfl⟩
  | token =>
    simp only [Credential.check, checkToken, verdict, CanJudge, ← presentedToken_eq_some_iff, true_imp_iff]
    cases presentedToken r with
    | none => exact ⟨_, s.database.statements, rfl, Nat.le_succ _, fun h => (by cases h), fun _ => rfl⟩
    | some t =>
      simp only [Plan.run_bind, findToken_run]
      cases s.database.fault with
      | some e =>
        refine ⟨_, s.database.statements, rfl, Nat.le_succ _, fun h => (by cases h), fun h => ?_⟩
        cases h ⟨t, rfl⟩
      | none =>
        have hiff := (Memory.Tokens.find_eq_none_iff : s.database.tokens.find t = none ↔ _)
        cases hfind : s.database.tokens.find t with
        | none => exact ⟨_, _, rfl, le_rfl, fun _ _ => rfl, fun _ => (if_neg (hiff.mp hfind)).symm⟩
        | some row =>
          have hthere : ∃ row ∈ s.database.tokens.rows, row.token = t := by
            by_contra h
            cases hfind.symm.trans (hiff.mpr h)
          exact ⟨_, _, rfl, le_rfl, fun _ _ => rfl, fun _ => (if_pos hthere).symm⟩

variable {s : Service} {r : Http.Request} {route : Route} {written : List Char} {e : Endpoint}

/-- What is sent of a response to a request by a method. -/
def sent (method : String) (response : Http.Response) : Http.Response :=
  if method = "HEAD" then response.withoutBody else response

theorem respond_eq (hroute : route? r.path = some (route, written)) (he : route.endpoint? r.method = some e) :
    s.respond r = Prod.map (sent r.method) id
      ((e.answer s.config r (route.parameter?.getD "") written).run answer s) := by
  simp only [respond, Api.respond, answerInFull, hroute, he, Plan.map, Plan.run_bind, Plan.run]
  rfl

/-- A request that is refused is answered by what it is told. -/
theorem respond_of_refused {err : ServiceError} {s' : Service} (hroute : route? r.path = some (route, written))
    (he : route.endpoint? r.method = some e)
    (hcheck : (e.credential.check s.config.secret r).run answer s = (.error err, s')) :
    s.respond r = (sent r.method (errorResponse err), s') := by
  rw [respond_eq hroute he, Endpoint.answer, Plan.run_bind, hcheck]
  rfl

/-- A request that is let in is acted upon, unless its parameter cannot be read. -/
theorem respond_of_admitted {s' : Service} (hroute : route? r.path = some (route, written))
    (he : route.endpoint? r.method = some e)
    (hcheck : (e.credential.check s.config.secret r).run answer s = (.ok (), s')) :
    s.respond r = match unescape (route.parameter?.getD "") written with
      | .error reason => (sent r.method (.plain 400 reason), s')
      | .ok parameter => Prod.map (sent r.method) id ((e.act s.config r parameter).run answer s') := by
  rw [respond_eq hroute he, Endpoint.answer, Plan.run_bind, hcheck]
  cases unescape (route.parameter?.getD "") written <;> rfl

/-- What is not carried leaves nothing behind but the count of statements. -/
theorem respond_frame (hroute : route? r.path = some (route, written)) (he : route.endpoint? r.method = some e)
    (hcarry : ¬ Carries s.config.secret s.database.tokens.rows r e.credential) :
    ∃ n ≤ s.database.statements + 1, (s.respond r).2 = s.tallied n := by
  obtain ⟨a, n, hcheck, hn, hjudge, hverdict⟩ := check_run s r e.credential
  cases a with
  | ok u => exact absurd ((verdict_ok_iff _).mp (hverdict (hjudge rfl)).symm) hcarry
  | error err => exact ⟨n, hn, by rw [respond_of_refused hroute he hcheck]⟩

/-- What is told when a request is not let in. -/
theorem respond_of_verdict (hroute : route? r.path = some (route, written)) (he : route.endpoint? r.method = some e)
    (hjudge : s.CanJudge r e.credential) {err : ServiceError}
    (h : verdict s.config.secret s.database.tokens.rows r e.credential = .error err) :
    (s.respond r).1 = sent r.method (errorResponse err) := by
  obtain ⟨a, n, hcheck, -, -, hverdict⟩ := check_run s r e.credential
  rw [hverdict hjudge, h] at hcheck
  rw [respond_of_refused hroute he hcheck]

/-- The status of an answer tells whether the request carries what the endpoint asks for. -/
theorem respond_status_iff (hroute : route? r.path = some (route, written)) (he : route.endpoint? r.method = some e)
    (hjudge : s.CanJudge r e.credential) :
    (s.respond r).1.status = 401 ↔ ¬ Carries s.config.secret s.database.tokens.rows r e.credential := by
  have hsent : ∀ response, (sent r.method response).status = response.status := fun response => by
    unfold sent
    split <;> rfl
  rw [← verdict_ok_iff]
  cases h : verdict s.config.secret s.database.tokens.rows r e.credential with
  | error err =>
    obtain ⟨reason, rfl⟩ := verdict_error h
    rw [respond_of_verdict hroute he hjudge h, hsent]
    exact ⟨fun _ => nofun, fun _ => rfl⟩
  | ok u =>
    obtain ⟨a, n, hcheck, -, -, hverdict⟩ := check_run s r e.credential
    rw [hverdict hjudge, h] at hcheck
    rw [respond_of_admitted hroute he hcheck]
    refine ⟨fun hstatus => absurd hstatus ?_, fun hne => absurd rfl hne⟩
    split
    · simp [hsent, Http.Response.plain]
    · rw [Prod.map_fst, hsent]
      exact (e.act_ends s.config r _).unfolds (Plan.unfolds_run _ answer _)

/-- A service without a secret lets nobody in to what asks for it. -/
theorem not_carries_of_secret_eq {rows : List AccessToken} : ¬ Carries "" rows r .admin := by
  rintro ⟨value, -, hne, heq⟩
  exact hne heq

/-- **Nobody gets past an endpoint without what it asks for.** Every endpoint but the one for health asks for the secret
or for a token. A request that does not carry what its endpoint asks for writes and removes no row, sends no command to
Redis and posts nothing: at most one statement is counted, for the lookup of the token. Unless this lookup fails, the
answer has the status 401 and tells a reason in an object of JSON, or has no body when only the headers were asked for.
It is the same answer to every request by this method to this route whose two headers are the same, with whatever
parameter, body and other headers, and by every service with this secret and these tokens, whatever else it holds. A
service without a secret lets nobody in to what asks for it. -/
theorem turned_away (s : Service) (r : Http.Request) {route : Route} {written : List Char} {e : Endpoint}
    (hroute : route? r.path = some (route, written)) (he : route.endpoint? r.method = some e) (hhealth : e ≠ .health) :
    (e.credential = .admin ∨ e.credential = .token) ∧
    (¬ Carries s.config.secret s.database.tokens.rows r e.credential →
      (∃ n ≤ s.database.statements + 1,
        (s.respond r).2 = { s with database := { s.database with statements := n } }) ∧
      (s.CanJudge r e.credential →
        (∃ reason, (s.respond r).1 = ⟨401, some .json, none,
          if r.method = "HEAD" then [] else Json.write (.object [("error", .text reason)])⟩) ∧
        ∀ (s' : Service) (r' : Http.Request) (written' : List Char), r'.method = r.method →
          route? r'.path = some (route, written') → r'.header? "admin-token" = r.header? "admin-token" →
          r'.header? "authorization" = r.header? "authorization" → s'.config.secret = s.config.secret →
          s'.database.tokens.rows = s.database.tokens.rows → s'.CanJudge r' e.credential →
          (s'.respond r').1 = (s.respond r).1)) ∧
    (e.credential = .admin → s.config.secret = "" → (s.respond r).1.status = 401) := by
  refine ⟨?_, fun hcarry => ⟨respond_frame hroute he hcarry, fun hjudge => ?_⟩, fun hadmin hsecret => ?_⟩
  · cases e <;> first | exact absurd rfl hhealth | exact .inl rfl | exact .inr rfl
  · cases hverdict : verdict s.config.secret s.database.tokens.rows r e.credential with
    | ok u => exact absurd ((verdict_ok_iff _).mp hverdict) hcarry
    | error err =>
      obtain ⟨reason, rfl⟩ := verdict_error hverdict
      have hanswer := respond_of_verdict hroute he hjudge hverdict
      refine ⟨⟨reason, ?_⟩, fun s' r' written' hmethod hroute' hadmin htoken hsecret hrows hjudge' => ?_⟩
      · rw [hanswer, sent]
        split <;> rfl
      · have hverdict' : verdict s'.config.secret s'.database.tokens.rows r' e.credential =
            .error (.authentication reason) := by
          rw [hsecret, hrows, verdict_congr hadmin htoken, hverdict]
        rw [hanswer, respond_of_verdict hroute' (hmethod ▸ he) hjudge' hverdict', hmethod]
  · rw [respond_status_iff hroute he (canJudge_of_admin hadmin), hadmin, hsecret]
    exact not_carries_of_secret_eq

/-- A service with one token, `"open"`, and some channels. -/
def latched (secret : String) (channels : Memory.Channels) : Service :=
  .new secret "t" { Database.empty (fun _ => "shut") fun _ => .epoch with
    channels, tokens := ⟨[⟨1, "open", "a@b.c", .epoch⟩], 1, 1⟩ }

/-- A wrong token is told the same of a channel that is there and of an id that is none, and no admin has an empty
secret. -/
theorem turned_away_latched :
    (∃ reason, ((latched "key" ⟨[⟨17, .email, "a@b.c", "g"⟩], 17⟩).respond
      ⟨"DELETE", "/api/v1/channel/17", [("Authorization", "Bearer  shut ")], [1]⟩).1 =
        ⟨401, some .json, none, Json.write (.object [("error", .text reason)])⟩) ∧
    ((latched "key" .empty).respond ⟨"DELETE", "/api/v1/channel/%ff", [("authorization", "Bearer  shut ")], []⟩).1 =
      ((latched "key" ⟨[⟨17, .email, "a@b.c", "g"⟩], 17⟩).respond
        ⟨"DELETE", "/api/v1/channel/17", [("Authorization", "Bearer  shut ")], [1]⟩).1 ∧
    ((latched "" .empty).respond ⟨"GET", "/api/v1/notification/3", [("Admin-Token", " ")], []⟩).1.status = 401 := by
  have hrefused : verdict "key" [⟨1, "open", "a@b.c", .epoch⟩]
      ⟨"DELETE", "/api/v1/channel/17", [("Authorization", "Bearer  shut ")], [1]⟩ .token =
        .error (.authentication "invalid authorization token") := by decide
  have hcarry := fun h => (nomatch hrefused.symm.trans ((verdict_ok_iff _).mpr h) : False)
  obtain ⟨-, haway, -⟩ := turned_away (latched "key" ⟨[⟨17, .email, "a@b.c", "g"⟩], 17⟩)
    ⟨"DELETE", "/api/v1/channel/17", [("Authorization", "Bearer  shut ")], [1]⟩ (e := .removeChannel) rfl rfl nofun
  obtain ⟨hanswer, hsame⟩ := (haway hcarry).2 fun _ _ => rfl
  refine ⟨hanswer, hsame _ _ _ rfl rfl rfl rfl rfl rfl fun _ _ => rfl, ?_⟩
  exact (turned_away (latched "" .empty) ⟨"GET", "/api/v1/notification/3", [("Admin-Token", " ")], []⟩
    (e := .showFailure) rfl rfl nofun).2.2 rfl rfl

end Service

end Courier
