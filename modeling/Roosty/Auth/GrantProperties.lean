import Roosty.Auth.Access
import Roosty.Library.Words

/-!
# Grants of access tokens

Where the tokens of a run come from: the application of each, the approval behind each
code, and the scopes that both leave.
-/

set_option autoImplicit false

namespace Roosty.Auth.Access

open Library

section

variable {Data : Type} {env : Environment} {now : Int} {db next : Db Data} {response : Response}

/-!
## Requests that are served
-/

theorem createAccessToken_eq_ok_iff {id : Nat} {raw : String} {accountId : Option AccountId}
    {applicationId : Nat} {scopes : String} {result : Db Data × Response} :
    createAccessToken env now db id raw accountId applicationId scopes = .ok result ↔
      (∀ token ∈ db.tokens, token.id ≠ id ∧ token.tokenHash ≠ env.secretHash raw) ∧
      ({ db with tokens := db.tokens ++
          [⟨id, env.secretHash raw, accountId, applicationId, scopes, now, none, none⟩] },
        .token raw ⟨id, env.secretHash raw, accountId, applicationId, scopes, now, none, none⟩) =
          result := by
  unfold createAccessToken
  simp only [bind_eq_ok_iff, exists_unit_iff, ensure_eq_ok_iff, List.all_eq_true,
    Bool.and_eq_true, bne_iff_ne, Except.ok.injEq]

theorem authorizationCodeGrant_eq_ok_iff {id : Nat} {raw : String} {app : OAuthApplication}
    {form : TokenForm} {result : Db Data × Response} :
    authorizationCodeGrant env now db id raw app form = .ok result ↔
      form.grantType = .authorizationCode ∧ ∃ code requested redirectUri consumed grant,
        form.code = some code ∧ form.redirectUri = some requested ∧
        matchingRedirectUri env app.redirectUri requested = some redirectUri ∧
        consumeAuthorizationCode env now db code app.id redirectUri = some (consumed, grant) ∧
        (if verifierAccepted env grant form.codeVerifier then
          createAccessToken env now consumed id raw (some grant.accountId) app.id grant.scopes
        else .ok (consumed, .refused (invalidGrant "invalid PKCE verifier"))) = .ok result := by
  unfold authorizationCodeGrant
  simp only [bind_eq_ok_iff, exists_unit_iff, ensure_eq_ok_iff, okOr_eq_ok_iff, beq_iff_eq]
  constructor
  · rintro ⟨grantType, code, given, requested, asked, redirectUri, found, ⟨consumed, grant⟩,
      consumes, rest⟩
    exact ⟨grantType, code, requested, redirectUri, consumed, grant, given, asked, found, consumes,
      rest⟩
  · rintro ⟨grantType, code, requested, redirectUri, consumed, grant, given, asked, found, consumes,
      rest⟩
    exact ⟨grantType, code, given, requested, asked, redirectUri, found, (consumed, grant),
      consumes, rest⟩

theorem token_eq_ok_iff {id : Nat} {raw : String} {form : TokenForm}
    {result : Db Data × Response} :
    token env now db id raw form = .ok result ↔ ∃ app, authenticateClient env db form = .ok app ∧
      ((form.grantType = .clientCredentials ∧ ∃ scopes,
          clientCredentialsScopes form.scope app.scopes = .ok scopes ∧
          createAccessToken env now db id raw none app.id scopes = .ok result) ∨
        authorizationCodeGrant env now db id raw app form = .ok result) := by
  unfold token
  rw [bind_eq_ok_iff]
  refine exists_congr fun app => and_congr_right fun _ => ?_
  by_cases client : form.grantType = .clientCredentials
  · rw [if_pos client]
    simp only [bind_eq_ok_iff, mapError_eq_ok_iff]
    constructor
    · exact fun granted => .inl ⟨client, granted⟩
    · rintro (⟨_, granted⟩ | granted)
      · exact granted
      · obtain ⟨code, _⟩ := authorizationCodeGrant_eq_ok_iff.mp granted
        rw [client] at code
        cases code
  · rw [if_neg client]
    exact ⟨.inr, fun granted => granted.resolve_left fun other => client other.1⟩

theorem validateAuthorizeRequest_eq_ok_iff {params : AuthorizeParams}
    {validated : ValidatedAuthorizeRequest} :
    validateAuthorizeRequest env db params = .ok validated ↔
      params.responseType = .code ∧
      ((optionalNonEmpty params.codeChallenge).isSome = true →
        params.codeChallengeMethod.getD .s256 = .s256) ∧
      findOauthApplicationByClientId db params.clientId = some validated.app ∧
      matchingRedirectUri env validated.app.redirectUri params.redirectUri =
        some validated.redirectUri := by
  unfold validateAuthorizeRequest
  simp only [bind_eq_ok_iff, exists_unit_iff, ensure_eq_ok_iff, okOr_eq_ok_iff, beq_iff_eq,
    Except.ok.injEq]
  have pkce : (!((optionalNonEmpty params.codeChallenge).isSome &&
      params.codeChallengeMethod.getD .s256 != .s256)) = true ↔
      ((optionalNonEmpty params.codeChallenge).isSome = true →
        params.codeChallengeMethod.getD .s256 = .s256) := by
    cases (optionalNonEmpty params.codeChallenge).isSome <;> simp
  rw [pkce]
  constructor
  · rintro ⟨code, method, app, found, redirectUri, registered, rfl⟩
    exact ⟨code, method, found, registered⟩
  · rintro ⟨code, method, found, registered⟩
    exact ⟨code, method, _, found, _, registered, rfl⟩

theorem authorize_eq_ok_iff {code : String} {cookieHeader : Option String}
    {params : AuthorizeParams} {decision : AuthorizationDecision}
    {result : Db Data × Response} :
    authorize env now db code cookieHeader params decision = .ok result ↔
      ∃ accountId account validated,
        accountIdFromSession env now cookieHeader = some accountId ∧
        findLocalAccountById db accountId = some account ∧
        validateAuthorizeRequest env db params = .ok validated ∧
        ((decision = .deny ∧
            (db, authorizationCallback env validated.redirectUri .denied) = result) ∨
          (decision = .approve ∧
            (∀ stored ∈ db.codes, stored.1 ≠ env.secretHash code) ∧
            ({ db with codes := db.codes ++ [(env.secretHash code,
                newAuthorizationCode now accountId validated.app validated.redirectUri params)] },
              authorizationCallback env validated.redirectUri (.approved code)) = result)) := by
  unfold authorize
  simp only [bind_eq_ok_iff, okOr_eq_ok_iff]
  constructor
  · rintro ⟨accountId, session, account, found, validated, valid, decided⟩
    refine ⟨accountId, account, validated, session, found, valid, ?_⟩
    cases decision with
    | deny => exact .inl ⟨rfl, Except.ok.inj decided⟩
    | approve =>
        obtain ⟨written, stored, same⟩ := bind_ok decided
        unfold createAuthorizationCode at stored
        obtain ⟨_, fresh, row⟩ := bind_ok stored
        cases row
        exact .inr ⟨rfl, by simpa using ensure_ok fresh, Except.ok.inj same⟩
  · rintro ⟨accountId, account, validated, session, found, valid, decided⟩
    refine ⟨accountId, session, account, found, validated, valid, ?_⟩
    rcases decided with ⟨rfl, same⟩ | ⟨rfl, fresh, same⟩
    · exact congrArg Except.ok same
    · have unused : (db.codes.all fun stored => stored.1 != env.secretHash code) = true := by
        simpa using fresh
      dsimp only
      rw [createAuthorizationCode, unused, ensure_true, ok_bind, ok_bind, same]

theorem consumeAuthorizationCode_eq_some_iff {code : String} {applicationId : Nat}
    {redirectUri : String} {consumed : Db Data} {grant : Grant} :
    consumeAuthorizationCode env now db code applicationId redirectUri = some (consumed, grant) ↔
      ∃ stored, db.codes.find? (fun stored => stored.1 == env.secretHash code &&
          stored.2.applicationId == applicationId && stored.2.redirectUri == redirectUri &&
          stored.2.consumedAt.isNone) = some stored ∧
        now < stored.2.expiresAt ∧ stored.2.grant = grant ∧
        markConsumed now db (env.secretHash code) = consumed := by
  unfold consumeAuthorizationCode
  dsimp only
  split
  next missing =>
    refine iff_of_false nofun ?_
    rintro ⟨stored, found, _⟩
    rw [missing] at found
    cases found
  next stored found =>
    split
    next expired =>
      refine iff_of_false nofun ?_
      rintro ⟨_, same, fresh, _⟩
      rw [found] at same
      cases same
      omega
    next fresh =>
      rw [Option.some.injEq, Prod.mk.injEq]
      constructor
      · rintro ⟨rows, same⟩
        exact ⟨stored, found, by omega, same, rows⟩
      · rintro ⟨_, same, _, granted, rows⟩
        rw [found] at same
        cases same
        exact ⟨rows, granted⟩

/-!
## Scopes
-/

theorem isWord_of_mem_scopeWords {scopes word : String} (member : word ∈ scopeWords scopes) :
    Text.IsWord word.toList := by
  obtain ⟨letters, piece, rfl⟩ := List.mem_map.mp member
  rw [String.toList_ofList]
  exact Text.isWord_of_mem piece

theorem scopeWords_join {words : List String} (solid : ∀ word ∈ words, Text.IsWord word.toList) :
    scopeWords (String.ofList ([' '].intercalate (words.map String.toList))) = words := by
  have letters : ∀ word ∈ words.map String.toList, Text.IsWord word := by
    intro word member
    obtain ⟨text, listed, rfl⟩ := List.mem_map.mp member
    exact solid text listed
  rw [scopeWords, String.toList_ofList, Text.splitWhitespace_intercalate letters, List.map_map]
  exact (List.map_congr_left fun word _ => String.ofList_toList).trans (List.map_id words)

def ScopesCovered (registered granted : String) : Prop :=
  ∀ scope ∈ scopeWords granted, ∃ wider ∈ scopeWords registered, scopeCovers wider scope = true

theorem scopesCovered_refl (scopes : String) : ScopesCovered scopes scopes :=
  fun scope member => ⟨scope, member, by simp [scopeCovers]⟩

theorem clientCredentialsScopes_covered {requested : Option String} {registered scopes : String}
    (success : clientCredentialsScopes requested registered = .ok scopes) :
    ScopesCovered registered scopes := by
  unfold clientCredentialsScopes at success
  dsimp only at success
  split_ifs at success with empty exceeds
  cases success
  intro scope member
  rw [scopeWords_join fun word listed => isWord_of_mem_scopeWords listed] at member
  by_contra uncovered
  refine exceeds (List.any_eq_true.mpr ⟨scope, member, ?_⟩)
  rw [Bool.not_eq_true', ← Bool.not_eq_true, List.any_eq_true]
  exact uncovered

/-!
## History
-/

/-- A request of a session approved a code: what was asked, and the row that was stored, for
scopes of its application. -/
structure Approval (env : Environment) (applications : List OAuthApplication)
    (entry : Call Data × Response) (hash : String) (row : AuthorizationCode)
    (params : AuthorizeParams) (app : OAuthApplication) : Prop where
  request : ∃ code cookieHeader,
    entry.1.request = .authorize code cookieHeader params .approve ∧ env.secretHash code = hash ∧
      accountIdFromSession env entry.1.now cookieHeader = some row.accountId ∧
      entry.2 = authorizationCallback env row.redirectUri (.approved code)
  registered : app ∈ applications
  client : app.clientId = params.clientId
  redirectUri : matchingRedirectUri env app.redirectUri params.redirectUri = some row.redirectUri
  application : row.applicationId = app.id
  challenge : row.codeChallenge = (optionalNonEmpty params.codeChallenge).getD ""
  covered : ScopesCovered app.scopes row.scopes

inductive Effect (env : Environment) (now : Int) (db next : Db Data) (request : Request Data)
    (response : Response) : Prop where
  | keeps (applications : next.applications = db.applications) (codes : next.codes = db.codes)
  | registers (app : OAuthApplication)
      (fresh : ∀ row ∈ db.applications, row.id ≠ app.id ∧ row.clientId ≠ app.clientId)
      (applications : next.applications = db.applications ++ [app]) (codes : next.codes = db.codes)
  | approves (code : String) (cookieHeader : Option String) (params : AuthorizeParams)
      (accountId : AccountId) (validated : ValidatedAuthorizeRequest)
      (asked : request = .authorize code cookieHeader params .approve)
      (session : accountIdFromSession env now cookieHeader = some accountId)
      (valid : validateAuthorizeRequest env db params = .ok validated)
      (answered : response = authorizationCallback env validated.redirectUri (.approved code))
      (applications : next.applications = db.applications)
      (codes : next.codes = db.codes ++ [(env.secretHash code,
        newAuthorizationCode now accountId validated.app validated.redirectUri params)])
  | consumes (hash : String) (applications : next.applications = db.applications)
      (codes : next.codes = (markConsumed now db hash).codes)

theorem handled_effect {written : Option Data} {request : Request Data}
    (success : handled db written = .ok (next, response)) : Effect env now db next request response := by
  cases written with
  | none => cases success
  | some data =>
      cases success
      exact .keeps rfl rfl

theorem token_effect {id : Nat} {raw : String} {form : TokenForm} {request : Request Data}
    (success : token env now db id raw form = .ok (next, response)) :
    Effect env now db next request response := by
  obtain ⟨app, _, ⟨_, scopes, _, created⟩ | redeemed⟩ := token_eq_ok_iff.mp success
  · obtain ⟨_, same⟩ := createAccessToken_eq_ok_iff.mp created
    cases same
    exact .keeps rfl rfl
  · obtain ⟨_, code, _, redirectUri, consumed, grant, _, _, _, consumes, rest⟩ :=
      authorizationCodeGrant_eq_ok_iff.mp redeemed
    obtain ⟨stored, _, _, _, rfl⟩ := consumeAuthorizationCode_eq_some_iff.mp consumes
    split_ifs at rest
    · obtain ⟨_, same⟩ := createAccessToken_eq_ok_iff.mp rest
      cases same
      exact .consumes (env.secretHash code) rfl rfl
    · cases rest
      exact .consumes (env.secretHash code) rfl rfl

theorem perform_effect {request : Request Data}
    (success : perform env now db request = .ok (next, response)) :
    Effect env now db next request response := by
  cases request with
  | login form =>
      obtain ⟨_, _, rest⟩ := bind_ok success
      obtain ⟨_, _, rest⟩ := bind_ok rest
      obtain ⟨_, _, same⟩ := bind_ok rest
      cases same
      exact .keeps rfl rfl
  | changePassword salt cookieHeader form =>
      obtain ⟨_, _, rest⟩ := bind_ok success
      obtain ⟨_, _, rest⟩ := bind_ok rest
      obtain ⟨_, _, same⟩ := bind_ok rest
      cases same
      exact .keeps rfl rfl
  | registerApp id clientId clientSecret form =>
      obtain ⟨_, _, rest⟩ := bind_ok success
      obtain ⟨_, fresh, same⟩ := bind_ok rest
      cases same
      exact .registers _ (by simpa using ensure_ok fresh) rfl rfl
  | authorize code cookieHeader params decision =>
      obtain ⟨accountId, account, validated, session, _, valid, decided⟩ :=
        authorize_eq_ok_iff.mp success
      rcases decided with ⟨_, same⟩ | ⟨rfl, _, same⟩
      · cases same
        exact .keeps rfl rfl
      · cases same
        exact .approves code cookieHeader params accountId validated rfl session valid rfl rfl rfl
  | token id raw form => exact token_effect success
  | revoke raw =>
      cases success
      exact .keeps rfl rfl
  | asAccount authorization handler =>
      obtain ⟨_, _, rest⟩ := bind_ok success
      exact handled_effect rest
  | asGrant authorization handler =>
      obtain ⟨_, _, rest⟩ := bind_ok success
      exact handled_effect rest
  | setSuspended accountId suspended =>
      cases success
      unfold setAccountSuspendedById
      split <;> exact .keeps rfl rfl
  | createAccount account =>
      obtain ⟨_, _, same⟩ := bind_ok success
      cases same
      exact .keeps rfl rfl
  | write data =>
      cases success
      exact .keeps rfl rfl

theorem Approval.mono {applications more : List OAuthApplication} {entry : Call Data × Response}
    {hash : String} {row : AuthorizationCode} {params : AuthorizeParams} {app : OAuthApplication}
    (approval : Approval env applications entry hash row params app)
    (subset : applications ⊆ more) : Approval env more entry hash row params app :=
  { approval with registered := subset approval.registered }

theorem Approval.consumed {applications : List OAuthApplication} {entry : Call Data × Response}
    {hash : String} {row : AuthorizationCode} {params : AuthorizeParams} {app : OAuthApplication}
    (approval : Approval env applications entry hash row params app) (time : Option Int) :
    Approval env applications entry hash { row with consumedAt := time } params app where
  request := approval.request
  registered := approval.registered
  client := approval.client
  redirectUri := approval.redirectUri
  application := approval.application
  challenge := approval.challenge
  covered := approval.covered

/-- Every stored code was approved, for an application that is registered once. -/
structure Sound (env : Environment) (history : List (Call Data × Response)) (db : Db Data) :
    Prop where
  ids : (db.applications.map OAuthApplication.id).Nodup
  clients : (db.applications.map OAuthApplication.clientId).Nodup
  codes : ∀ stored ∈ db.codes, ∃ entry ∈ history, ∃ params app,
    Approval env db.applications entry stored.1 stored.2 params app

/-- An approval asks for no more than the application was registered with. -/
def Moderate (db : Db Data) (call : Call Data) : Prop :=
  ∀ code cookieHeader params, call.request = .authorize code cookieHeader params .approve →
    ∀ scope app, params.scope = some scope →
      findOauthApplicationByClientId db params.clientId = some app → ScopesCovered app.scopes scope

theorem step_effect (call : Call Data) :
    Effect env call.now db (step env db call).1 call.request (step env db call).2 := by
  unfold step
  cases served : perform env call.now db call.request with
  | ok result => exact perform_effect served
  | error refusal => exact .keeps rfl rfl

theorem Sound.step {history : List (Call Data × Response)} (sound : Sound env history db)
    {call : Call Data} (moderate : Moderate db call) :
    Sound env (history ++ [(call, (step env db call).2)]) (step env db call).1 := by
  have earlier {applications : List OAuthApplication} (subset : db.applications ⊆ applications)
      {stored : String × AuthorizationCode} (member : stored ∈ db.codes) :
      ∃ entry ∈ history ++ [(call, (Access.step env db call).2)], ∃ params app,
        Approval env applications entry stored.1 stored.2 params app := by
    obtain ⟨entry, listed, params, app, approval⟩ := sound.codes stored member
    exact ⟨entry, List.mem_append_left _ listed, params, app, approval.mono subset⟩
  cases (step_effect call : Effect env call.now db _ call.request _) with
  | keeps applications codes =>
      exact ⟨applications ▸ sound.ids, applications ▸ sound.clients, fun stored member =>
        earlier (applications ▸ List.Subset.refl _) (codes ▸ member)⟩
  | registers app fresh applications codes =>
      refine ⟨?_, ?_, fun stored member => ?_⟩
      · rw [applications, List.map_append, List.map_singleton, ← List.concat_eq_append,
          List.nodup_concat]
        refine ⟨?_, sound.ids⟩
        intro member
        obtain ⟨row, listed, same⟩ := List.mem_map.mp member
        exact (fresh row listed).1 same
      · rw [applications, List.map_append, List.map_singleton, ← List.concat_eq_append,
          List.nodup_concat]
        refine ⟨?_, sound.clients⟩
        intro member
        obtain ⟨row, listed, same⟩ := List.mem_map.mp member
        exact (fresh row listed).2 same
      · rw [applications]
        exact earlier (List.subset_append_left _ _) (codes ▸ member)
  | approves code cookieHeader params accountId validated asked session valid answered
      applications codes =>
      refine ⟨applications ▸ sound.ids, applications ▸ sound.clients, fun stored member => ?_⟩
      rw [codes] at member
      rcases List.mem_append.mp member with before | here
      · rw [applications]
        exact earlier (List.Subset.refl _) before
      · obtain rfl := List.mem_singleton.mp here
        obtain ⟨_, _, found, registered⟩ := validateAuthorizeRequest_eq_ok_iff.mp valid
        have client := List.find?_some found
        refine ⟨_, List.mem_append_right _ (List.mem_singleton_self _), params, validated.app, ?_⟩
        refine {
          request := ⟨code, cookieHeader, asked, rfl, session, answered⟩
          registered := applications ▸ List.mem_of_find?_eq_some found
          client := by simpa using client
          redirectUri := registered
          application := rfl
          challenge := rfl
          covered := ?_ }
        change ScopesCovered _ (params.scope.getD validated.app.scopes)
        cases asks : params.scope with
        | none => exact scopesCovered_refl _
        | some scope => exact moderate code cookieHeader params asked scope _ asks found
  | consumes hash applications codes =>
      refine ⟨applications ▸ sound.ids, applications ▸ sound.clients, fun stored member => ?_⟩
      rw [codes, markConsumed, Table.mem_updateWhere] at member
      rw [applications]
      rcases member with ⟨before, _⟩ | ⟨before, listed, _, rfl⟩
      · exact earlier (List.Subset.refl _) before
      · obtain ⟨entry, member, params, app, approval⟩ := earlier (List.Subset.refl _) listed
        exact ⟨entry, member, params, app, approval.consumed _⟩

def initial (accounts : List LocalAccount) (data : Data) : Db Data := ⟨accounts, [], [], [], data⟩

theorem run_sound {accounts : List LocalAccount} {data : Data} {calls : List (Call Data)}
    (moderate : (machine env).Guarded Moderate (initial accounts data) calls) :
    Sound env ((machine env).trace (initial accounts data) calls)
      ((machine env).run (initial accounts data) calls) := by
  refine (machine env).history_invariant (initial accounts data)
    ((machine env).Guarded Moderate (initial accounts data)) (fun _ _ => Machine.Guarded.of_append)
    (Sound env) ⟨List.nodup_nil, List.nodup_nil, nofun⟩ ?_ moderate
  intro calls call guarded sound
  exact sound.step (guarded calls call [] rfl)

/-!
## Issued tokens
-/

/-- The approval behind a token that was issued for a code: of the account of the token, answered
by the callback with the code, under the same registered redirect URI, and with a challenge that
the verifier meets. -/
def Redeems (env : Environment) (history : List (Call Data × Response)) (form : TokenForm)
    (app : OAuthApplication) (row : OAuthAccessToken) : Prop :=
  ∃ code requested redirectUri, form.code = some code ∧ form.redirectUri = some requested ∧
    matchingRedirectUri env app.redirectUri requested = some redirectUri ∧
    ∃ entry ∈ history, ∃ approved cookieHeader params accountId,
      entry.1.request = .authorize approved cookieHeader params .approve ∧
      env.secretHash approved = env.secretHash code ∧
      accountIdFromSession env entry.1.now cookieHeader = some accountId ∧
      row.accountId = some accountId ∧ params.clientId = app.clientId ∧
      matchingRedirectUri env app.redirectUri params.redirectUri = some redirectUri ∧
      entry.2 = authorizationCallback env redirectUri (.approved approved) ∧
      ∀ challenge, optionalNonEmpty params.codeChallenge = some challenge →
        ∃ verifier, form.codeVerifier = some verifier ∧ env.pkceS256Challenge verifier = challenge

def WithinGrant (env : Environment) (history : List (Call Data × Response)) (db : Db Data)
    (form : TokenForm) (row : OAuthAccessToken) : Prop :=
  ∃ app, authenticateClient env db form = .ok app ∧ row.applicationId = app.id ∧
    ScopesCovered app.scopes row.scopes ∧
    (form.grantType ≠ .clientCredentials → Redeems env history form app row)

theorem mem_of_authenticateClient {form : TokenForm} {app : OAuthApplication}
    (authenticated : authenticateClient env db form = .ok app) : app ∈ db.applications := by
  obtain ⟨found, client, rest⟩ := bind_ok authenticated
  have same : found = app := by
    split at rest <;> exact Except.ok.inj (bind_ok rest).choose_spec.2
  rw [← same]
  exact List.mem_of_find?_eq_some (okOr_ok client)

theorem verifierAccepted_iff {grant : Grant} {codeVerifier : Option String} :
    verifierAccepted env grant codeVerifier = true ↔ grant.codeChallenge = "" ∨
      grant.codeChallengeMethod = .s256 ∧ ∃ verifier, codeVerifier = some verifier ∧
        env.pkceS256Challenge verifier = grant.codeChallenge := by
  simp only [verifierAccepted, Bool.or_eq_true, Bool.and_eq_true, beq_iff_eq, Option.any_eq_true]

theorem optionalNonEmpty_ne_empty {value : Option String} {text : String}
    (given : optionalNonEmpty value = some text) : text ≠ "" := by
  obtain ⟨_, filled⟩ := Option.filter_eq_some_iff.mp given
  simpa using filled

theorem Sound.token {history : List (Call Data × Response)} (sound : Sound env history db)
    {id : Nat} {raw issued : String} {form : TokenForm} {row : OAuthAccessToken}
    (success : token env now db id raw form = .ok (next, .token issued row)) :
    WithinGrant env history db form row := by
  obtain ⟨app, authenticated, ⟨client, scopes, granted, created⟩ | redeemed⟩ :=
    token_eq_ok_iff.mp success
  · obtain ⟨_, same⟩ := createAccessToken_eq_ok_iff.mp created
    cases same
    exact ⟨app, authenticated, rfl, clientCredentialsScopes_covered granted,
      fun other => absurd client other⟩
  · obtain ⟨_, code, requested, redirectUri, consumed, grant, given, asked, matched, consumes,
      rest⟩ := authorizationCodeGrant_eq_ok_iff.mp redeemed
    obtain ⟨stored, found, _, rfl, rfl⟩ := consumeAuthorizationCode_eq_some_iff.mp consumes
    have selected := List.find?_some found
    simp only [Bool.and_eq_true, beq_iff_eq] at selected
    obtain ⟨⟨⟨hash, application⟩, uri⟩, _⟩ := selected
    obtain ⟨entry, listed, params, approvedApp, approval⟩ :=
      sound.codes stored (List.mem_of_find?_eq_some found)
    have sameApp : approvedApp = app :=
      List.inj_on_of_nodup_map sound.ids approval.registered
        (mem_of_authenticateClient authenticated) (approval.application.symm.trans application)
    subst sameApp
    split_ifs at rest with accepted
    · obtain ⟨_, same⟩ := createAccessToken_eq_ok_iff.mp rest
      cases same
      refine ⟨approvedApp, authenticated, rfl, approval.covered, fun _ => ?_⟩
      obtain ⟨approved, cookieHeader, request, sameHash, session, answered⟩ := approval.request
      refine ⟨code, requested, redirectUri, given, asked, matched, entry, listed, approved,
        cookieHeader, params, stored.2.accountId, request, sameHash.trans hash, session, rfl,
        approval.client.symm, uri ▸ approval.redirectUri, uri ▸ answered, ?_⟩
      intro challenge carried
      have stays : stored.2.codeChallenge = challenge := by
        rw [approval.challenge, carried, Option.getD_some]
      rcases verifierAccepted_iff.mp accepted with none | ⟨_, verifier, verified, meets⟩
      · exact absurd (stays.symm.trans none) (optionalNonEmpty_ne_empty carried)
      · exact ⟨verifier, verified, meets.trans stays⟩
    · cases rest

/-- Where no approval asks for more than its application was registered with, every token is
within its grant. -/
theorem issued_within_grant {accounts : List LocalAccount} {data : Data}
    {calls : List (Call Data)}
    (moderate : (machine env).Guarded Moderate (initial accounts data) calls) :
    ∀ before call after, calls = before ++ call :: after →
      ∀ id raw form issued row, call.request = .token id raw form →
        ((machine env).step ((machine env).run (initial accounts data) before) call).2 =
          .token issued row →
        WithinGrant env ((machine env).trace (initial accounts data) before)
          ((machine env).run (initial accounts data) before) form row := by
  rintro before ⟨now, request⟩ after rfl id raw form issued row rfl response
  have sound := run_sound moderate.of_append
  change (step env _ _).2 = _ at response
  unfold step at response
  dsimp only at response
  split at response
  next result served =>
    obtain ⟨next, reply⟩ := result
    cases response
    exact sound.token served
  next => cases response

end

namespace Sample

def env : Environment where
  secretHash := id
  sign := fun _ => "signature"
  pkceS256Challenge := id
  verifyPassword := fun password hash => .ok (password == hash)
  hashPassword := fun _ password => .ok password
  percentDecode := some
  urlError := fun _ => none

def account : LocalAccount := ⟨⟨1⟩, "ann", "ann@example.org", "password", none⟩

def cookie : Option String := some ("roosty_session=" ++ sessionCookie env 0 ⟨1⟩)

def params (scope : String) : AuthorizeParams where
  responseType := .code
  clientId := "client"
  redirectUri := "https://app.example/callback"
  scope := some scope
  state := none
  codeChallenge := some "challenge"
  codeChallengeMethod := none

def form : TokenForm where
  grantType := .authorizationCode
  code := some "code"
  clientId := "client"
  clientSecret := none
  redirectUri := some "https://app.example/callback"
  codeVerifier := some "challenge"
  scope := none

def registration : Call Unit :=
  ⟨0, .registerApp 5 "client" "secret"
    ⟨"reader", "https://app.example/callback", some "read", none⟩⟩

def approval (scope : String) : List (Call Unit) :=
  [registration, ⟨1, .authorize "code" cookie (params scope) .approve⟩]

def redemption : Call Unit := ⟨2, .token 9 "raw" form⟩

def row (scope : String) : OAuthAccessToken :=
  ⟨9, "raw", some ⟨1⟩, 5, scope, 2, none, none⟩

end Sample

open Sample in
/-- A reader may be approved to write. -/
theorem approval_exceeds_registration :
    ¬ ∀ (env : Environment) (accounts : List LocalAccount) (calls : List (Call Unit))
        before call after, calls = before ++ call :: after →
      ∀ id raw form issued row, call.request = .token id raw form →
        ((machine env).step ((machine env).run (initial accounts ()) before) call).2 =
          .token issued row →
        WithinGrant env ((machine env).trace (initial accounts ()) before)
          ((machine env).run (initial accounts ()) before) form row := by
  intro always
  have issued : ((machine env).step ((machine env).run (initial [account] ()) (approval "write"))
      redemption).2 = .token "raw" (row "write") := by
    decide +kernel
  obtain ⟨app, authenticated, _, covered, _⟩ :=
    always env [account] (approval "write" ++ [redemption]) (approval "write") redemption [] rfl
      9 "raw" form "raw" (row "write") rfl issued
  have client : (authenticateClient env
      ((machine env).run (initial [account] ()) (approval "write")) form).toOption.map
        OAuthApplication.scopes = some "read" := by
    decide +kernel
  rw [authenticated] at client
  obtain ⟨wider, registered, covers⟩ := covered "write" (by decide +kernel)
  rw [Option.some.inj client] at registered
  have none : ∀ wider ∈ scopeWords "read", scopeCovers wider "write" = false := by
    decide +kernel
  rw [none wider registered] at covers
  cases covers

open Sample in
theorem reader_within_grant :
    WithinGrant env ((machine env).trace (initial [account] ()) (approval "read:statuses"))
      ((machine env).run (initial [account] ()) (approval "read:statuses")) form
      (row "read:statuses") := by
  have moderate : (machine env).Guarded Moderate (initial [account] ())
      (approval "read:statuses" ++ [redemption]) := by
    refine Machine.guarded_cons nofun (Machine.guarded_cons ?_
      (Machine.guarded_cons nofun Machine.guarded_nil))
    rintro code cookieHeader _ ⟨⟩ scope app ⟨⟩ found
    have client : (findOauthApplicationByClientId
        ((machine env).step (initial [account] ()) registration).1 "client").map
          OAuthApplication.scopes = some "read" := by
      decide +kernel
    have read := client.symm.trans (congrArg (Option.map OAuthApplication.scopes) found)
    rw [← Option.some.inj read]
    have words : scopeWords "read:statuses" = ["read:statuses"] := by
      decide +kernel
    intro scope asked
    rw [words, List.mem_singleton] at asked
    exact ⟨"read", by decide +kernel, asked ▸ by decide +kernel⟩
  exact issued_within_grant moderate (approval "read:statuses") redemption [] rfl 9 "raw" form
    "raw" (row "read:statuses") rfl (by decide +kernel)

end Roosty.Auth.Access
