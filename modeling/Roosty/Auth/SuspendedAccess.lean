import Roosty.Auth.GrantProperties

/-!
# Access of suspended accounts

A suspension revokes the tokens of its account, and leaves its sessions and codes. Logins
and bearer tokens are refused while it lasts, and sessions and codes are not.
-/

set_option autoImplicit false

namespace Roosty.Auth.Access

open Library

section

variable {Data : Type}

/-- The unique keys of accounts, codes and tokens. -/
structure Db.Keyed (db : Db Data) : Prop where
  accounts : (db.accounts.map LocalAccount.id).Nodup
  codes : (db.codes.map Prod.fst).Nodup
  tokens : (db.tokens.map OAuthAccessToken.tokenHash).Nodup

def Suspended (db : Db Data) (accountId : AccountId) : Prop :=
  ∃ account, findLocalAccountById db accountId = some account ∧ account.suspendedAt.isSome = true

def AuthenticatedAs (env : Environment) (now : Int) (db : Db Data) (accountId : AccountId) :
    Request Data → Prop
  | .login form => ∃ account, findLocalAccountByLogin db form.login = some account ∧
      account.id = accountId
  | .changePassword _ cookieHeader _ | .authorize _ cookieHeader _ _ =>
      accountIdFromSession env now cookieHeader = some accountId
  | .token _ _ form => form.grantType = .authorizationCode ∧ ∃ code, form.code = some code ∧
      ∃ stored ∈ db.codes, stored.1 = env.secretHash code ∧ stored.2.accountId = accountId
  | .asAccount authorization _ | .asGrant authorization _ =>
      ∃ raw, bearerToken authorization = some raw ∧
        ∃ token ∈ db.tokens, token.tokenHash = env.secretHash raw ∧ token.accountId = some accountId
  | _ => False

/-- A request of a suspended account gets nothing and changes nothing. -/
def CutOff (env : Environment) (db : Db Data) (call : Call Data) : Prop :=
  ∀ accountId, Suspended db accountId → AuthenticatedAs env call.now db accountId call.request →
    (∃ refusal, (step env db call).2 = .refused refusal) ∧ (step env db call).1 = db

/-- The requests of suspended accounts that are served: a session that decides on an
authorization or changes the password, and a code that is redeemed or used up. -/
def ServesSuspended (env : Environment) (now : Int) (db : Db Data) : Request Data → Prop
  | .changePassword salt cookieHeader form => ∃ accountId account passwordHash,
      accountIdFromSession env now cookieHeader = some accountId ∧
      findLocalAccountById db accountId = some account ∧ account.suspendedAt.isSome = true ∧
      validatedPasswordHash env salt account.passwordHash form = .ok passwordHash
  | .authorize code cookieHeader params decision => ∃ accountId account validated,
      accountIdFromSession env now cookieHeader = some accountId ∧
      findLocalAccountById db accountId = some account ∧ account.suspendedAt.isSome = true ∧
      validateAuthorizeRequest env db params = .ok validated ∧
      (decision = .deny → validated.redirectUri = oobRedirectUri ∨
        env.urlError validated.redirectUri = none) ∧
      (decision = .approve → ∀ stored ∈ db.codes, stored.1 ≠ env.secretHash code)
  | .token id raw form => form.grantType = .authorizationCode ∧
      ∃ app code requested redirectUri consumed grant,
        authenticateClient env db form = .ok app ∧ form.code = some code ∧
        form.redirectUri = some requested ∧
        matchingRedirectUri env app.redirectUri requested = some redirectUri ∧
        consumeAuthorizationCode env now db code app.id redirectUri = some (consumed, grant) ∧
        Suspended db grant.accountId ∧
        (verifierAccepted env grant form.codeVerifier = true →
          ∀ token ∈ db.tokens, token.id ≠ id ∧ token.tokenHash ≠ env.secretHash raw)
  | _ => False

variable {env : Environment} {now : Int} {db next : Db Data} {response : Response}
  {accountId : AccountId}

/-!
## Keys
-/

theorem Db.Keyed.of_codes (keyed : db.Keyed) (accounts : next.accounts = db.accounts)
    (codes : next.codes.map Prod.fst = db.codes.map Prod.fst)
    (tokens : next.tokens = db.tokens) : next.Keyed :=
  ⟨accounts ▸ keyed.accounts, codes ▸ keyed.codes, tokens ▸ keyed.tokens⟩

theorem Db.Keyed.updateAccounts (keyed : db.Keyed) {selected : LocalAccount → Bool}
    {change : LocalAccount → LocalAccount} (codes : next.codes = db.codes)
    (tokens : next.tokens.map OAuthAccessToken.tokenHash =
      db.tokens.map OAuthAccessToken.tokenHash)
    (accounts : next.accounts = Table.updateWhere selected change db.accounts)
    (keeps : ∀ account, (change account).id = account.id) : next.Keyed := by
  refine ⟨?_, codes ▸ keyed.codes, tokens.symm ▸ keyed.tokens⟩
  rw [accounts, Table.map_updateWhere fun account _ _ => keeps account]
  exact keyed.accounts

theorem markConsumed_keys (now : Int) (db : Db Data) (hash : String) :
    (markConsumed now db hash).codes.map Prod.fst = db.codes.map Prod.fst :=
  Table.map_updateWhere fun _ _ _ => rfl

theorem revokeAccessToken_keys (env : Environment) (now : Int) (db : Db Data) (raw : String) :
    (revokeAccessToken env now db raw).tokens.map OAuthAccessToken.tokenHash =
      db.tokens.map OAuthAccessToken.tokenHash :=
  Table.map_updateWhere fun _ _ _ => rfl

theorem severLocalAccountRelationships_revoked {token : OAuthAccessToken}
    (member : token ∈ severLocalAccountRelationships now db accountId)
    (owner : token.accountId = some accountId) : token.revokedAt.isSome = true := by
  obtain ⟨row, _, same⟩ := List.mem_map.mp member
  split at same
  · rw [← same]
    rfl
  · rename_i kept
    dsimp only at kept
    rw [same, owner, beq_self_eq_true, Bool.true_and] at kept
    exact Option.isSome_iff_ne_none.mpr (by simpa using kept)

theorem setAccountSuspendedById_keyed (keyed : db.Keyed) (suspended : Bool) :
    (setAccountSuspendedById now db accountId suspended).Keyed := by
  unfold setAccountSuspendedById
  split
  · exact keyed
  · refine keyed.updateAccounts rfl ?_ rfl fun _ => rfl
    dsimp only
    split
    · exact Table.map_updateWhere fun _ _ _ => rfl
    · rfl

theorem handled_keyed (keyed : db.Keyed) {written : Option Data}
    (success : handled db written = .ok (next, response)) : next.Keyed := by
  cases written with
  | none => cases success
  | some data =>
      cases success
      exact keyed.of_codes rfl rfl rfl

theorem createAccessToken_keyed (keyed : db.Keyed) {id : Nat} {raw : String}
    {account : Option AccountId} {applicationId : Nat} {scopes : String}
    (success : createAccessToken env now db id raw account applicationId scopes =
      .ok (next, response)) : next.Keyed := by
  obtain ⟨fresh, same⟩ := createAccessToken_eq_ok_iff.mp success
  cases same
  refine ⟨keyed.accounts, keyed.codes, ?_⟩
  rw [List.map_append, List.map_singleton, ← List.concat_eq_append, List.nodup_concat]
  refine ⟨?_, keyed.tokens⟩
  intro member
  obtain ⟨token, listed, same⟩ := List.mem_map.mp member
  exact (fresh token listed).2 same

theorem token_keyed (keyed : db.Keyed) {id : Nat} {raw : String} {form : TokenForm}
    (success : token env now db id raw form = .ok (next, response)) : next.Keyed := by
  obtain ⟨app, _, ⟨_, scopes, _, created⟩ | redeemed⟩ := token_eq_ok_iff.mp success
  · exact createAccessToken_keyed keyed created
  · obtain ⟨_, code, _, redirectUri, consumed, grant, _, _, _, consumes, rest⟩ :=
      authorizationCodeGrant_eq_ok_iff.mp redeemed
    obtain ⟨stored, _, _, _, rfl⟩ := consumeAuthorizationCode_eq_some_iff.mp consumes
    have consumed : (markConsumed now db (env.secretHash code)).Keyed :=
      keyed.of_codes rfl (markConsumed_keys now db _) rfl
    split_ifs at rest
    · exact createAccessToken_keyed consumed rest
    · cases rest
      exact consumed

theorem perform_keyed (keyed : db.Keyed) {request : Request Data}
    (success : perform env now db request = .ok (next, response)) : next.Keyed := by
  cases request with
  | login form =>
      obtain ⟨_, _, rest⟩ := bind_ok success
      obtain ⟨_, _, rest⟩ := bind_ok rest
      obtain ⟨_, _, same⟩ := bind_ok rest
      cases same
      exact keyed
  | changePassword salt cookieHeader form =>
      obtain ⟨_, _, rest⟩ := bind_ok success
      obtain ⟨_, _, rest⟩ := bind_ok rest
      obtain ⟨_, _, same⟩ := bind_ok rest
      cases same
      exact keyed.updateAccounts rfl rfl rfl fun _ => rfl
  | registerApp id clientId clientSecret form =>
      obtain ⟨_, _, rest⟩ := bind_ok success
      obtain ⟨_, _, same⟩ := bind_ok rest
      cases same
      exact keyed.of_codes rfl rfl rfl
  | authorize code cookieHeader params decision =>
      obtain ⟨_, _, _, _, _, _, decided⟩ := authorize_eq_ok_iff.mp success
      rcases decided with ⟨_, same⟩ | ⟨rfl, fresh, same⟩
      · cases same
        exact keyed
      · cases same
        refine ⟨keyed.accounts, ?_, keyed.tokens⟩
        rw [List.map_append, List.map_singleton, ← List.concat_eq_append, List.nodup_concat]
        refine ⟨?_, keyed.codes⟩
        intro member
        obtain ⟨stored, listed, same⟩ := List.mem_map.mp member
        exact fresh stored listed same
  | token id raw form => exact token_keyed keyed success
  | revoke raw =>
      cases success
      have keys := revokeAccessToken_keys env now db raw
      exact ⟨keyed.accounts, keyed.codes, keys.symm ▸ keyed.tokens⟩
  | asAccount authorization handler =>
      obtain ⟨_, _, rest⟩ := bind_ok success
      exact handled_keyed keyed rest
  | asGrant authorization handler =>
      obtain ⟨_, _, rest⟩ := bind_ok success
      exact handled_keyed keyed rest
  | setSuspended account suspended =>
      cases success
      exact setAccountSuspendedById_keyed keyed suspended
  | createAccount account =>
      obtain ⟨_, fresh, same⟩ := bind_ok success
      cases same
      refine ⟨?_, keyed.codes, keyed.tokens⟩
      rw [List.map_append, List.map_singleton, ← List.concat_eq_append, List.nodup_concat]
      refine ⟨?_, keyed.accounts⟩
      intro member
      obtain ⟨row, listed, same⟩ := List.mem_map.mp member
      have unused := List.all_eq_true.mp (ensure_ok fresh) row listed
      simp only [Bool.and_eq_true, bne_iff_ne] at unused
      exact unused.1.1 same
  | write data =>
      cases success
      exact keyed.of_codes rfl rfl rfl

theorem run_keyed (keyed : db.Keyed) (calls : List (Call Data)) :
    ((machine env).run db calls).Keyed := by
  refine (machine env).run_invariant Db.Keyed ?_ keyed calls
  intro state call keyed
  change (step env state call).1.Keyed
  unfold step
  cases served : perform env call.now state call.request with
  | ok result => exact perform_keyed keyed served
  | error refusal => exact keyed

/-!
## Requests of suspended accounts
-/

theorem findActiveAccount_of_suspended (keyed : db.Keyed) (suspended : Suspended db accountId) :
    findActiveAccount db accountId = none := by
  obtain ⟨account, found, since⟩ := suspended
  have same := List.find?_some found
  rw [beq_iff_eq] at same
  rw [findActiveAccount, List.find?_eq_none]
  intro row member
  by_cases here : row.id = accountId
  · have row_eq : row = account :=
      List.inj_on_of_nodup_map keyed.accounts member (List.mem_of_find?_eq_some found)
        (here.trans same.symm)
    simp [row_eq, Option.isSome_iff_ne_none.mp since]
  · simp [here]

theorem findToken_account {raw : String} {token : OAuthAccessToken}
    (found : findToken env now db raw = some token) :
    token ∈ db.tokens ∧ token.tokenHash = env.secretHash raw := by
  obtain ⟨stored, _⟩ := Option.filter_eq_some_iff.mp found
  have selected := List.find?_some stored
  simp only [Bool.and_eq_true, beq_iff_eq] at selected
  exact ⟨List.mem_of_find?_eq_some stored, selected.1⟩

theorem findToken_of_suspended (keyed : db.Keyed) (suspended : Suspended db accountId)
    {raw : String} {owned found : OAuthAccessToken} (member : owned ∈ db.tokens)
    (hash : owned.tokenHash = env.secretHash raw) (owner : owned.accountId = some accountId)
    (here : findToken env now db raw = some found) :
    found.accountId.bind (findActiveAccount db) = none := by
  obtain ⟨listed, sameHash⟩ := findToken_account here
  have same : found = owned :=
    List.inj_on_of_nodup_map keyed.tokens listed member (sameHash.trans hash.symm)
  rw [same, owner, Option.bind_some, findActiveAccount_of_suspended keyed suspended]

theorem step_of_error {request : Request Data} {refusal : Refusal}
    (failed : perform env now db request = .error refusal) :
    step env db ⟨now, request⟩ = (db, .refused refusal) := by
  unfold step
  dsimp only
  rw [failed]

theorem step_of_ok {request : Request Data} {result : Db Data × Response}
    (served : perform env now db request = .ok result) : step env db ⟨now, request⟩ = result := by
  unfold step
  dsimp only
  rw [served]

theorem authorizationCallback_shown {redirectUri : String} (response : Response)
    (shown : redirectUri = oobRedirectUri ∨ env.urlError redirectUri = none) :
    authorizationCallback env redirectUri response = response := by
  unfold authorizationCallback
  split_ifs with page
  · rfl
  · rw [shown.resolve_left page]

theorem authorizationCallback_refused {redirectUri : String} (response : Response)
    (broken : ¬ (redirectUri = oobRedirectUri ∨ env.urlError redirectUri = none)) :
    ∃ refusal, authorizationCallback env redirectUri response = .refused refusal := by
  obtain ⟨page, parsed⟩ := not_or.mp broken
  obtain ⟨error, failed⟩ := Option.ne_none_iff_exists'.mp parsed
  unfold authorizationCallback
  rw [if_neg page, failed]
  exact ⟨_, rfl⟩

theorem login_cutOff (keyed : db.Keyed) (suspended : Suspended db accountId) {form : LoginForm}
    {account : LocalAccount} (found : findLocalAccountByLogin db form.login = some account)
    (same : account.id = accountId) {result : Db Data × Response}
    (served : login env now db form = .ok result) : False := by
  obtain ⟨active, here, _⟩ := bind_ok served
  rw [okOr_eq_ok_iff, Option.filter_eq_some_iff, found] at here
  obtain ⟨rfl, free⟩ : account = active ∧ active.suspendedAt.isNone = true :=
    ⟨Option.some.inj here.1, here.2⟩
  obtain ⟨row, stored, since⟩ := suspended
  have rowId := List.find?_some stored
  rw [beq_iff_eq] at rowId
  have row_eq : row = account :=
    List.inj_on_of_nodup_map keyed.accounts (List.mem_of_find?_eq_some stored)
      (List.mem_of_find?_eq_some found) (rowId.trans same.symm)
  rw [row_eq, Option.isSome_iff_ne_none] at since
  exact since (Option.isNone_iff_eq_none.mp free)

theorem bearer_cutOff (keyed : db.Keyed) (suspended : Suspended db accountId)
    {authorization : Option String} {raw : String} (bearer : bearerToken authorization = some raw)
    {owned : OAuthAccessToken} (member : owned ∈ db.tokens)
    (hash : owned.tokenHash = env.secretHash raw) (owner : owned.accountId = some accountId) :
    (∀ account, authenticatedAccount env now db authorization ≠ .ok account) ∧
      ∀ grant, authenticatedAccessToken env now db authorization ≠ .ok grant := by
  constructor
  · intro account authenticated
    obtain ⟨given, here, rest⟩ := bind_ok authenticated
    rw [okOr_eq_ok_iff, bearer] at here
    cases here
    obtain ⟨found, resolved, _⟩ := bind_ok rest
    obtain ⟨token, tokenFound, rest⟩ := Option.bind_eq_some_iff.mp (okOr_ok resolved)
    obtain ⟨id, has, rest⟩ := Option.bind_eq_some_iff.mp rest
    obtain ⟨active, free, _⟩ := Option.bind_eq_some_iff.mp rest
    have none := findToken_of_suspended keyed suspended member hash owner tokenFound
    rw [has, Option.bind_some, free] at none
    cases none
  · intro grant authenticated
    obtain ⟨given, here, resolved⟩ := bind_ok authenticated
    rw [okOr_eq_ok_iff, bearer] at here
    cases here
    obtain ⟨token, tokenFound, rest⟩ := Option.bind_eq_some_iff.mp (okOr_ok resolved)
    obtain ⟨id, has, rest⟩ := Option.bind_eq_some_iff.mp rest
    obtain ⟨active, free, _⟩ := Option.bind_eq_some_iff.mp rest
    have none := findToken_of_suspended keyed suspended member hash owner tokenFound
    rw [has, Option.bind_some, free] at none
    cases none

theorem changePassword_eq_ok_iff {salt : Nat} {cookieHeader : Option String}
    {form : ChangePasswordForm} :
    (∃ result, changePassword env now db salt cookieHeader form = .ok result) ↔
      ∃ accountId account passwordHash,
        accountIdFromSession env now cookieHeader = some accountId ∧
        findLocalAccountById db accountId = some account ∧
        validatedPasswordHash env salt account.passwordHash form = .ok passwordHash := by
  unfold changePassword
  simp only [bind_eq_ok_iff, okOr_eq_ok_iff, mapError_eq_ok_iff]
  constructor
  · rintro ⟨_, accountId, session, account, found, passwordHash, validated, _⟩
    exact ⟨accountId, account, passwordHash, session, found, validated⟩
  · rintro ⟨accountId, account, passwordHash, session, found, validated⟩
    exact ⟨_, accountId, session, account, found, passwordHash, validated, rfl⟩

theorem changePassword_response {salt : Nat} {cookieHeader : Option String}
    {form : ChangePasswordForm} {result : Db Data × Response}
    (served : changePassword env now db salt cookieHeader form = .ok result) :
    result.2 = .passwordChanged := by
  obtain ⟨_, _, rest⟩ := bind_ok served
  obtain ⟨_, _, rest⟩ := bind_ok rest
  obtain ⟨_, _, same⟩ := bind_ok rest
  cases same
  rfl

theorem consumed_account (keyed : db.Keyed) {code : String} {applicationId : Nat}
    {redirectUri : String} {consumed : Db Data} {grant : Grant}
    (consumes : consumeAuthorizationCode env now db code applicationId redirectUri =
      some (consumed, grant))
    {owned : String × AuthorizationCode} (member : owned ∈ db.codes)
    (hash : owned.1 = env.secretHash code) : grant.accountId = owned.2.accountId := by
  obtain ⟨stored, found, _, rfl, _⟩ := consumeAuthorizationCode_eq_some_iff.mp consumes
  have selected := List.find?_some found
  simp only [Bool.and_eq_true, beq_iff_eq] at selected
  have same : stored = owned :=
    List.inj_on_of_nodup_map keyed.codes (List.mem_of_find?_eq_some found) member
      (selected.1.1.1.trans hash.symm)
  rw [same]
  rfl

theorem consumed_ne {code : String} {applicationId : Nat} {redirectUri : String}
    {consumed : Db Data} {grant : Grant}
    (consumes : consumeAuthorizationCode env now db code applicationId redirectUri =
      some (consumed, grant)) : consumed.codes ≠ db.codes := by
  obtain ⟨stored, found, _, _, rfl⟩ := consumeAuthorizationCode_eq_some_iff.mp consumes
  have selected := List.find?_some found
  simp only [Bool.and_eq_true, beq_iff_eq, Option.isNone_iff_eq_none] at selected
  intro same
  have kept := Table.updateWhere_eq_self_iff.mp same stored (List.mem_of_find?_eq_some found)
    (by simpa using selected.1.1.1)
  have left := congrArg (fun row => row.2.consumedAt) kept
  rw [selected.2] at left
  cases left

theorem servesSuspended_of_served (keyed : db.Keyed) (suspended : Suspended db accountId)
    {request : Request Data} (authenticated : AuthenticatedAs env now db accountId request)
    {result : Db Data × Response} (served : perform env now db request = .ok result) :
    ServesSuspended env now db request ∨ (∃ refusal, result = (db, .refused refusal)) := by
  cases request with
  | login form =>
      obtain ⟨account, found, same⟩ := authenticated
      exact (login_cutOff keyed suspended found same served).elim
  | changePassword salt cookieHeader form =>
      obtain ⟨account, passwordHash⟩ := changePassword_eq_ok_iff.mp ⟨result, served⟩
      obtain ⟨row, hash, session, found, validated⟩ := passwordHash
      have same : account = accountId := Option.some.inj (session.symm.trans authenticated)
      obtain ⟨stored, here, since⟩ := suspended
      rw [← same, found] at here
      cases here
      exact .inl ⟨account, row, hash, session, found, since, validated⟩
  | authorize code cookieHeader params decision =>
      obtain ⟨account, row, validated, session, found, valid, decided⟩ :=
        authorize_eq_ok_iff.mp served
      have same : account = accountId := Option.some.inj (session.symm.trans authenticated)
      obtain ⟨stored, here, since⟩ := suspended
      rw [← same, found] at here
      cases here
      rcases decided with ⟨rfl, reply⟩ | ⟨rfl, fresh, _⟩
      · by_cases page : validated.redirectUri = oobRedirectUri ∨
            env.urlError validated.redirectUri = none
        · exact .inl ⟨account, row, validated, session, found, since, valid, fun _ => page, nofun⟩
        · obtain ⟨refusal, back⟩ := authorizationCallback_refused Response.denied page
          exact .inr ⟨refusal, by rw [← reply, back]⟩
      · exact .inl ⟨account, row, validated, session, found, since, valid, nofun, fun _ => fresh⟩
  | token id raw form =>
      obtain ⟨grantType, code, given, owned, member, hash, owner⟩ := authenticated
      obtain ⟨app, client, ⟨other, _⟩ | redeemed⟩ := token_eq_ok_iff.mp served
      · rw [grantType] at other
        cases other
      · obtain ⟨_, presented, requested, redirectUri, consumed, grant, presents, asked, matched,
          consumes, rest⟩ := authorizationCodeGrant_eq_ok_iff.mp redeemed
        rw [given] at presents
        cases presents
        have account := consumed_account keyed consumes member hash
        refine .inl ⟨grantType, app, code, requested, redirectUri, consumed, grant, client, given,
          asked, matched, consumes, ?_, fun accepted => ?_⟩
        · rw [account, owner]
          exact suspended
        · rw [if_pos accepted] at rest
          obtain ⟨_, _, _, _, rfl⟩ := consumeAuthorizationCode_eq_some_iff.mp consumes
          exact (createAccessToken_eq_ok_iff.mp rest).1
  | asAccount authorization handler =>
      obtain ⟨raw, bearer, owned, member, hash, owner⟩ := authenticated
      obtain ⟨account, here, _⟩ := bind_ok served
      exact ((bearer_cutOff keyed suspended bearer member hash owner).1 account here).elim
  | asGrant authorization handler =>
      obtain ⟨raw, bearer, owned, member, hash, owner⟩ := authenticated
      obtain ⟨grant, here, _⟩ := bind_ok served
      exact ((bearer_cutOff keyed suspended bearer member hash owner).2 grant here).elim
  | registerApp | revoke | setSuspended | createAccount | write => exact authenticated.elim

theorem served_of_servesSuspended {call : Call Data}
    (serves : ServesSuspended env call.now db call.request) :
    ∃ accountId, Suspended db accountId ∧ AuthenticatedAs env call.now db accountId call.request ∧
      ((∀ refusal, (step env db call).2 ≠ .refused refusal) ∨ (step env db call).1 ≠ db) := by
  obtain ⟨now, request⟩ := call
  cases request with
  | changePassword salt cookieHeader form =>
      obtain ⟨accountId, account, passwordHash, session, found, since, validated⟩ := serves
      obtain ⟨result, served⟩ := changePassword_eq_ok_iff.mpr
        ⟨accountId, account, passwordHash, session, found, validated⟩
      have replied : step env db ⟨now, .changePassword salt cookieHeader form⟩ = result :=
        step_of_ok served
      refine ⟨accountId, ⟨account, found, since⟩, session, .inl fun refusal => ?_⟩
      rw [replied, changePassword_response served]
      exact nofun
  | authorize code cookieHeader params decision =>
      obtain ⟨accountId, account, validated, session, found, since, valid, shown, fresh⟩ := serves
      refine ⟨accountId, ⟨account, found, since⟩, session, ?_⟩
      cases decision with
      | deny =>
          have served : perform env now db (.authorize code cookieHeader params .deny) =
              .ok (db, authorizationCallback env validated.redirectUri .denied) := by
            rw [perform, authorize_eq_ok_iff]
            exact ⟨accountId, account, validated, session, found, valid, .inl ⟨rfl, rfl⟩⟩
          refine .inl fun refusal => ?_
          rw [step_of_ok served, authorizationCallback_shown _ (shown rfl)]
          exact nofun
      | approve =>
          have served : perform env now db (.authorize code cookieHeader params .approve) =
              .ok ({ db with codes := db.codes ++ [(env.secretHash code,
                newAuthorizationCode now accountId validated.app validated.redirectUri params)] },
                authorizationCallback env validated.redirectUri (.approved code)) := by
            rw [perform, authorize_eq_ok_iff]
            exact ⟨accountId, account, validated, session, found, valid,
              .inr ⟨rfl, fresh rfl, rfl⟩⟩
          refine .inr fun same => ?_
          rw [step_of_ok served] at same
          have longer := congrArg (fun db => db.codes.length) same
          simp at longer
  | token id raw form =>
      obtain ⟨grantType, app, code, requested, redirectUri, consumed, grant, client, given, asked,
        matched, consumes, suspended, fresh⟩ := serves
      obtain ⟨stored, found, _, granted, _⟩ := consumeAuthorizationCode_eq_some_iff.mp consumes
      have selected := List.find?_some found
      simp only [Bool.and_eq_true, beq_iff_eq] at selected
      refine ⟨grant.accountId, suspended, ⟨grantType, code, given, stored,
        List.mem_of_find?_eq_some found, selected.1.1.1, congrArg Grant.accountId granted⟩, ?_⟩
      have redeemed {result : Db Data × Response}
          (rest : (if verifierAccepted env grant form.codeVerifier then
            createAccessToken env now consumed id raw (some grant.accountId) app.id grant.scopes
          else .ok (consumed, .refused (invalidGrant "invalid PKCE verifier"))) = .ok result) :
          perform env now db (.token id raw form) = .ok result := by
        rw [perform, token_eq_ok_iff]
        exact ⟨app, client, .inr (authorizationCodeGrant_eq_ok_iff.mpr ⟨grantType, code, requested,
          redirectUri, consumed, grant, given, asked, matched, consumes, rest⟩)⟩
      split_ifs at redeemed with accepted
      · have sameTokens : consumed.tokens = db.tokens := by
          obtain ⟨_, _, _, _, rfl⟩ := consumeAuthorizationCode_eq_some_iff.mp consumes
          rfl
        have served := redeemed (createAccessToken_eq_ok_iff.mpr
          ⟨sameTokens ▸ fresh accepted, rfl⟩)
        refine .inl fun refusal => ?_
        rw [step_of_ok served]
        exact nofun
      · refine .inr fun same => consumed_ne consumes ?_
        rw [step_of_ok (redeemed rfl)] at same
        exact congrArg Db.codes same
  | login | registerApp | revoke | asAccount | asGrant | setSuspended | createAccount | write =>
      exact serves.elim

theorem cutOff_iff (keyed : db.Keyed) (call : Call Data) :
    CutOff env db call ↔ ¬ ServesSuspended env call.now db call.request := by
  obtain ⟨now, request⟩ := call
  constructor
  · intro cutOff serves
    obtain ⟨accountId, suspended, authenticated, served⟩ := served_of_servesSuspended serves
    obtain ⟨⟨refusal, refused⟩, unchanged⟩ := cutOff accountId suspended authenticated
    exact served.elim (fun replies => replies refusal refused) fun changes => changes unchanged
  · intro none accountId suspended authenticated
    cases served : perform env now db request with
    | error refusal =>
        rw [step_of_error served]
        exact ⟨⟨refusal, rfl⟩, rfl⟩
    | ok result =>
        rcases servesSuspended_of_served keyed suspended authenticated served with
          serves | ⟨refusal, rfl⟩
        · exact absurd serves none
        · rw [step_of_ok served]
          exact ⟨⟨refusal, rfl⟩, rfl⟩

/-- Suspended accounts are cut off throughout a run exactly where no session of theirs
decides or changes a password, and no code of theirs is redeemed. -/
theorem suspension_cuts_off_iff (keyed : db.Keyed) (calls : List (Call Data)) :
    (machine env).Guarded (CutOff env) db calls ↔
      (machine env).Guarded (fun db call => ¬ ServesSuspended env call.now db call.request) db
        calls := by
  refine forall_congr' fun before => forall_congr' fun call => forall_congr' fun after =>
    imp_congr_right fun _ => ?_
  exact cutOff_iff (run_keyed keyed before) call

end

theorem Sample.keyed : (initial [account] ()).Keyed :=
  ⟨List.nodup_singleton _, List.nodup_nil, List.nodup_nil⟩

open Sample in
/-- A session outlives the suspension of its account and changes its password. -/
theorem suspended_session_changes_password :
    ¬ ∀ (env : Environment) (db : Db Unit), db.Keyed → ∀ calls,
      (machine env).Guarded (CutOff env) db calls := by
  intro always
  have guarded := always env (initial [account] ()) keyed
    ([⟨1, .setSuspended ⟨1⟩ true⟩] ++
      [⟨2, .changePassword 0 cookie ⟨"password", "new password", "new password"⟩⟩])
  have cutOff := guarded [⟨1, .setSuspended ⟨1⟩ true⟩] _ [] rfl
  obtain ⟨⟨refusal, refused⟩, _⟩ := cutOff ⟨1⟩
    ⟨⟨⟨1⟩, "ann", "ann@example.org", "password", some 1⟩, by decide +kernel, rfl⟩
    (by change accountIdFromSession env 2 cookie = some ⟨1⟩; decide +kernel)
  have changed : (step env ((machine env).run (initial [account] ())
      [⟨1, .setSuspended ⟨1⟩ true⟩])
      ⟨2, .changePassword 0 cookie ⟨"password", "new password", "new password"⟩⟩).2 =
        .passwordChanged := by
    decide +kernel
  rw [changed] at refused
  cases refused

open Sample in
theorem suspended_login_cut_off :
    (machine env).Guarded (CutOff env) (initial [account] ())
      [⟨1, .setSuspended ⟨1⟩ true⟩, ⟨2, .login ⟨"ann", "password", none⟩⟩] := by
  refine (suspension_cuts_off_iff keyed _).mpr ?_
  exact Machine.guarded_cons id (Machine.guarded_cons id Machine.guarded_nil)

end Roosty.Auth.Access
