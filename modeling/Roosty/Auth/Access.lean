import Mathlib.Algebra.Group.Int.Defs
import Mathlib.Data.List.Basic
import Roosty.Auth.AuthorizationCode
import Roosty.Library.Machine
import Roosty.Library.Result
import Roosty.Library.Table
import Roosty.Library.Trim
import Roosty.Library.Uuid

/-!
# Access to accounts

Passwords, browser sessions, OAuth applications, authorization codes and access tokens,
with the requests that issue and use them. A request is one transaction here, which a
failure before its commit rolls back. Pages, push subscriptions and the form of responses
are left out.
-/

set_option autoImplicit false

namespace Roosty.Auth.Access

open Library

/-!
## Tables
-/

structure LocalAccount where
  id : AccountId
  username : String
  email : String
  passwordHash : String
  suspendedAt : Option Int
deriving DecidableEq

structure OAuthApplication where
  id : Nat
  clientId : String
  clientSecretHash : String
  name : String
  redirectUri : String
  scopes : String
  website : Option String
deriving DecidableEq

/-- A row of `oauth_access_token`. A token without an account is of its application alone. -/
structure OAuthAccessToken where
  id : Nat
  tokenHash : String
  accountId : Option AccountId
  applicationId : Nat
  scopes : String
  issuedAt : Int
  expiresAt : Option Int
  revokedAt : Option Int
deriving DecidableEq

/-- `Data` is what all other tables hold. A code is stored under its hash. -/
structure Db (Data : Type) where
  accounts : List LocalAccount
  applications : List OAuthApplication
  codes : List (String × AuthorizationCode)
  tokens : List OAuthAccessToken
  data : Data

/-- What other crates provide, under the secrets of the configuration. -/
structure Environment where
  /-- `secret_hash` under the token pepper. -/
  secretHash : String → String
  /-- `sign` under the session secret. -/
  sign : String → String
  pkceS256Challenge : String → String
  verifyPassword : String → String → Except RoostyError Bool
  hashPassword : Nat → String → Except RoostyError String
  /-- `percent_decode_str` and `decode_utf8`. -/
  percentDecode : String → Option String
  /-- The error of `Url::parse`. -/
  urlError : String → Option String

/-!
## Credentials
-/

/-- `OffsetDateTime::unix_timestamp`. -/
def unixTimestamp (now : Int) : Int := now / 1000000

/-- `str::parse::<i64>`. -/
def parseI64 (text : List Char) : Option Int :=
  let magnitude (digits : List Char) : Option Int :=
    if !digits.isEmpty && digits.all Char.isDigit then
      some (Int.ofNat (digits.foldl (fun value digit => value * 10 + (digit.toNat - 48)) 0))
    else none
  let value := match text with
    | '-' :: digits => (magnitude digits).map fun value => -value
    | '+' :: digits => magnitude digits
    | digits => magnitude digits
  value.filter fun value => decide (-2 ^ 63 ≤ value ∧ value < 2 ^ 63)

def sessionCookieName : List Char := "roosty_session".toList

/-- The value of the first session cookie of a `Cookie` header. -/
def sessionCookieValue (cookieHeader : List Char) : Option (List Char) :=
  ((cookieHeader.splitOn ';').filterMap fun part =>
      Text.splitOnce '=' (Text.trimMatches Text.isWhitespace part)).findSome? fun (name, value) =>
    if name = sessionCookieName then some value else none

def sessionPayload (accountId expiresAt : List Char) : String :=
  String.ofList (accountId ++ '.' :: expiresAt)

/-- The value of a new session cookie, which lasts for seven days. -/
def sessionCookie (env : Environment) (now : Int) (accountId : AccountId) : String :=
  let expiresAt := unixTimestamp (now + 7 * 24 * 60 * 60 * 1000000)
  let payload := sessionPayload (Text.uuidText accountId.value).toList (toString expiresAt).toList
  payload ++ "." ++ env.sign payload

def parseSessionCookie (env : Environment) (now : Int) (value : List Char) : Option AccountId :=
  match value.splitOn '.' with
  | [accountId, timestamp, signature] =>
      if env.sign (sessionPayload accountId timestamp) = String.ofList signature then
        match parseI64 timestamp with
        | none => none
        | some expiresAt =>
            if expiresAt ≤ unixTimestamp now then none
            else (Text.parseUuid (String.ofList accountId)).map AccountId.mk
      else none
  | _ => none

def accountIdFromSession (env : Environment) (now : Int) (cookieHeader : Option String) :
    Option AccountId :=
  (cookieHeader.bind fun header => sessionCookieValue header.toList).bind
    (parseSessionCookie env now)

def bearerToken (authorization : Option String) : Option String :=
  authorization.bind fun value =>
    (value.toList.dropPrefix? "Bearer ".toList).map String.ofList

/-!
## Responses
-/

/-- A response that serves nothing. -/
inductive Refusal where
  | redirect (location : String)
  | loginError (next : String)
  | passwordResult (result : String)
  | oauthError (status : Nat) (error description : String)
  /-- `ApiError::OAuth`. -/
  | unauthorized (error description : String)
  | serverError (error : RoostyError)
  /-- The refusal of a handler behind a bearer token. -/
  | handler
deriving DecidableEq

inductive Response where
  | session (cookie next : String)
  | passwordChanged
  | application (application : OAuthApplication) (clientSecret : String)
  | denied
  | approved (code : String)
  | token (raw : String) (token : OAuthAccessToken)
  | ok
  /-- A refusal after the commit. -/
  | refused (refusal : Refusal)
deriving DecidableEq

def invalidToken (description : String) : Refusal := .unauthorized "invalid_token" description

/-!
## Lookups
-/

section

variable {Data : Type} (env : Environment) (now : Int) (db : Db Data)

def findLocalAccountById (id : AccountId) : Option LocalAccount :=
  db.accounts.find? fun account => account.id == id

def findLocalAccountByLogin (login : String) : Option LocalAccount :=
  db.accounts.find? fun account => account.username == login || account.email == login

def findOauthApplicationByClientId (clientId : String) : Option OAuthApplication :=
  db.applications.find? fun app => app.clientId == clientId

/-- A token that has been issued, and neither revoked nor expired. -/
def findToken (raw : String) : Option OAuthAccessToken :=
  (db.tokens.find? fun token => token.tokenHash == env.secretHash raw && token.revokedAt.isNone).filter
    fun token => !token.expiresAt.any fun expiresAt => decide (expiresAt ≤ now)

def findActiveAccount (id : AccountId) : Option LocalAccount :=
  db.accounts.find? fun account => account.id == id && account.suspendedAt.isNone

def findAccountByAccessToken (raw : String) : Option (LocalAccount × String) := do
  let token ← findToken env now db raw
  let accountId ← token.accountId
  let account ← findActiveAccount db accountId
  some (account, token.scopes)

structure AccessTokenGrant where
  id : Nat
  account : LocalAccount
  scopes : String
deriving DecidableEq

def findAccessTokenGrant (raw : String) : Option AccessTokenGrant := do
  let token ← findToken env now db raw
  let accountId ← token.accountId
  let account ← findActiveAccount db accountId
  some ⟨token.id, account, token.scopes⟩

/-- The extractor `AuthenticatedAccount`, which drops the scopes of the token. -/
def authenticatedAccount (authorization : Option String) : Except Refusal LocalAccount := do
  let bearer ← okOr (bearerToken authorization) (invalidToken "missing bearer token")
  let found ← okOr (findAccountByAccessToken env now db bearer) (invalidToken "invalid token")
  .ok found.1

/-- The extractor `AuthenticatedAccessToken`. -/
def authenticatedAccessToken (authorization : Option String) : Except Refusal AccessTokenGrant := do
  let bearer ← okOr (bearerToken authorization) (invalidToken "missing bearer token")
  okOr (findAccessTokenGrant env now db bearer) (invalidToken "invalid token")

end

/-!
## Passwords
-/

def sanitizeNext (next : Option String) : String :=
  let next := next.getD "/"
  if "/".toList.isPrefixOf next.toList && !"//".toList.isPrefixOf next.toList then next else "/"

structure LoginForm where
  login : String
  password : String
  next : Option String

structure ChangePasswordForm where
  currentPassword : String
  password : String
  passwordConfirmation : String

inductive PasswordChangeError where
  | confirmationMismatch
  | tooShort
  | currentPasswordIncorrect
  | changeFailed
  | verificationFailed
deriving DecidableEq

/-- The values of `PasswordChangeResult` in the query of a redirect. -/
def PasswordChangeError.result : PasswordChangeError → String
  | .confirmationMismatch => "confirmation_mismatch"
  | .tooShort => "too_short"
  | .currentPasswordIncorrect => "current_password_incorrect"
  | .changeFailed => "change_failed"
  | .verificationFailed => "verification_failed"

def validatedPasswordHash (env : Environment) (salt : Nat) (currentPasswordHash : String)
    (form : ChangePasswordForm) : Except PasswordChangeError String :=
  if form.password ≠ form.passwordConfirmation then .error .confirmationMismatch
  else if form.password.length < 8 then .error .tooShort
  else match env.verifyPassword form.currentPassword currentPasswordHash with
    | .ok true => (env.hashPassword salt form.password).mapError fun _ => .changeFailed
    | .ok false => .error .currentPasswordIncorrect
    | .error _ => .error .verificationFailed

section

variable {Data : Type} (env : Environment) (now : Int) (db : Db Data)

def login (form : LoginForm) : Except Refusal (Db Data × Response) := do
  let next := sanitizeNext form.next
  let account ← okOr ((findLocalAccountByLogin db form.login).filter fun account =>
    account.suspendedAt.isNone) (.loginError next)
  let verified ← (env.verifyPassword form.password account.passwordHash).mapError .serverError
  ensure verified (.loginError next)
  .ok (db, .session (sessionCookie env now account.id) next)

/-- Change the signed-in user's password after verifying their current password. -/
def changePassword (salt : Nat) (cookieHeader : Option String) (form : ChangePasswordForm) :
    Except Refusal (Db Data × Response) := do
  let accountId ← okOr (accountIdFromSession env now cookieHeader)
    (.redirect "/login?next=%2Fauth%2Fedit")
  let account ← okOr (findLocalAccountById db accountId) (.redirect "/login")
  let passwordHash ← (validatedPasswordHash env salt account.passwordHash form).mapError
    fun error => .passwordResult error.result
  let accounts := Table.updateWhere (fun row => row.id == accountId)
    (fun row => { row with passwordHash := passwordHash }) db.accounts
  .ok ({ db with accounts := accounts }, .passwordChanged)

end

/-!
## Applications and authorization
-/

structure CreateAppForm where
  clientName : String
  redirectUris : String
  scopes : Option String
  website : Option String

inductive OAuthResponseType where
  | code
  | other
deriving DecidableEq

inductive OAuthGrantType where
  | authorizationCode
  | clientCredentials
  | other
deriving DecidableEq

inductive PkceMethod where
  | s256
  | other
deriving DecidableEq

inductive AuthorizationDecision where
  | approve
  | deny
deriving DecidableEq

structure AuthorizeParams where
  responseType : OAuthResponseType
  clientId : String
  redirectUri : String
  scope : Option String
  state : Option String
  codeChallenge : Option String
  codeChallengeMethod : Option PkceMethod

structure TokenForm where
  grantType : OAuthGrantType
  code : Option String
  clientId : String
  clientSecret : Option String
  redirectUri : Option String
  codeVerifier : Option String
  scope : Option String

def oobRedirectUri : String := "urn:ietf:wg:oauth:2.0:oob"

def optionalNonEmpty (value : Option String) : Option String :=
  (value.map Text.trim).filter (· != "")

/-- `str::lines`. -/
def lines (text : List Char) : List (List Char) :=
  let pieces := text.splitOn '\n'
  let ended := pieces.dropLast.map fun line =>
    if line.getLast? = some '\r' then line.dropLast else line
  ended ++ (pieces.getLast?.filter fun line => !line.isEmpty).toList

def matchingRedirectUri (env : Environment) (registered requested : String) : Option String :=
  ((lines registered.toList).map fun line => Text.trim (String.ofList line)).find? fun redirectUri =>
    redirectUri == requested || env.percentDecode redirectUri == some requested

def invalidRequest (description : String) : Refusal := .oauthError 400 "invalid_request" description

def invalidGrant (description : String) : Refusal := .oauthError 400 "invalid_grant" description

def scopeWords (scopes : String) : List String :=
  (Text.splitWhitespace scopes.toList).map String.ofList

def scopeCovers (granted requested : String) : Bool :=
  granted == requested ||
    ((granted == "read" || granted == "write") &&
      (requested.toList.dropPrefix? granted.toList).any fun suffix => suffix.head? == some ':')

def clientCredentialsScopes (requested : Option String) (registered : String) :
    Except String String :=
  let requested := scopeWords (requested.getD "read")
  if requested.isEmpty then .error "scope must not be empty"
  else if requested.any fun requested => !(scopeWords registered).any fun scope =>
      scopeCovers scope requested then
    .error "requested scope exceeds the application's registered scopes"
  else .ok (String.ofList ([' '].intercalate (requested.map String.toList)))

section

variable {Data : Type} (env : Environment) (now : Int) (db : Db Data)

/-- Register an OAuth application, with the identifiers and secrets that were drawn. -/
def registerApp (id : Nat) (clientId clientSecret : String) (form : CreateAppForm) :
    Except Refusal (Db Data × Response) := do
  ensure (Text.trim form.clientName != "" && Text.trim form.redirectUris != "")
    (invalidRequest "missing client metadata")
  let app : OAuthApplication :=
    ⟨id, clientId, env.secretHash clientSecret, form.clientName, form.redirectUris,
      form.scopes.getD "read write follow push", form.website⟩
  ensure (db.applications.all fun row => row.id != id && row.clientId != clientId)
    (.serverError (.database "oauth_application_key"))
  .ok ({ db with applications := db.applications ++ [app] }, .application app clientSecret)

structure ValidatedAuthorizeRequest where
  app : OAuthApplication
  redirectUri : String

def validateAuthorizeRequest (params : AuthorizeParams) :
    Except Refusal ValidatedAuthorizeRequest := do
  ensure (params.responseType == .code) (invalidRequest "unsupported authorization request")
  ensure (!((optionalNonEmpty params.codeChallenge).isSome &&
      params.codeChallengeMethod.getD .s256 != .s256))
    (invalidRequest "PKCE S256 is required")
  let app ← okOr (findOauthApplicationByClientId db params.clientId)
    (.oauthError 400 "invalid_client" "unknown client")
  let redirectUri ← okOr (matchingRedirectUri env app.redirectUri params.redirectUri)
    (invalidRequest "redirect_uri mismatch")
  .ok ⟨app, redirectUri⟩

def authorizationCallback (redirectUri : String) (response : Response) : Response :=
  if redirectUri = oobRedirectUri then response
  else match env.urlError redirectUri with
    | none => response
    | some error => .refused (.serverError
        (.invalidInput ("registered OAuth redirect URI is invalid: " ++ error)))

/-- The row of a new authorization code, which lasts for five minutes. -/
def newAuthorizationCode (accountId : AccountId) (app : OAuthApplication) (redirectUri : String)
    (params : AuthorizeParams) : AuthorizationCode where
  accountId := accountId
  applicationId := app.id
  redirectUri := redirectUri
  scopes := params.scope.getD app.scopes
  codeChallenge := (optionalNonEmpty params.codeChallenge).getD ""
  codeChallengeMethod :=
    if (optionalNonEmpty params.codeChallenge).getD "" = "" then .none else .s256
  expiresAt := now + 5 * 60 * 1000000
  consumedAt := none

def createAuthorizationCode (code : String) (row : AuthorizationCode) : Except Refusal (Db Data) := do
  ensure (db.codes.all fun stored => stored.1 != env.secretHash code)
    (.serverError (.database "oauth_authorization_code_code_hash_key"))
  .ok { db with codes := db.codes ++ [(env.secretHash code, row)] }

def authorize (code : String) (cookieHeader : Option String) (params : AuthorizeParams)
    (decision : AuthorizationDecision) : Except Refusal (Db Data × Response) := do
  let accountId ← okOr (accountIdFromSession env now cookieHeader) (.redirect "/login")
  let _ ← okOr (findLocalAccountById db accountId) (.redirect "/login")
  let validated ← validateAuthorizeRequest env db params
  match decision with
  | .deny => .ok (db, authorizationCallback env validated.redirectUri .denied)
  | .approve => do
      let next ← createAuthorizationCode env db code
        (newAuthorizationCode now accountId validated.app validated.redirectUri params)
      .ok (next, authorizationCallback env validated.redirectUri (.approved code))

/-!
## Tokens
-/

def markConsumed (hash : String) : Db Data :=
  let codes := Table.updateWhere (fun stored => stored.1 == hash)
    (fun stored => (stored.1, { stored.2 with consumedAt := some now })) db.codes
  { db with codes := codes }

def consumeAuthorizationCode (code : String) (applicationId : Nat) (redirectUri : String) :
    Option (Db Data × Grant) :=
  let hash := env.secretHash code
  let selected (stored : String × AuthorizationCode) : Bool :=
    stored.1 == hash && stored.2.applicationId == applicationId &&
      stored.2.redirectUri == redirectUri && stored.2.consumedAt.isNone
  match db.codes.find? selected with
  | none => none
  | some stored =>
      if stored.2.expiresAt ≤ now then none
      else some (markConsumed now db hash, stored.2.grant)

def createAccessToken (id : Nat) (raw : String) (accountId : Option AccountId)
    (applicationId : Nat) (scopes : String) : Except Refusal (Db Data × Response) := do
  let row : OAuthAccessToken :=
    ⟨id, env.secretHash raw, accountId, applicationId, scopes, now, none, none⟩
  ensure (db.tokens.all fun token => token.id != id && token.tokenHash != row.tokenHash)
    (.serverError (.database "oauth_access_token_key"))
  .ok ({ db with tokens := db.tokens ++ [row] }, .token raw row)

/-- The application that a token request names, with its secret where that is needed. -/
def authenticateClient (form : TokenForm) : Except Refusal OAuthApplication := do
  let app ← okOr (findOauthApplicationByClientId db form.clientId)
    (.oauthError 400 "invalid_client" "unknown client")
  match form.clientSecret with
  | some secret => do
      ensure (env.secretHash secret == app.clientSecretHash)
        (.oauthError 401 "invalid_client" "invalid client secret")
      .ok app
  | none => do
      ensure (form.grantType != .clientCredentials)
        (.oauthError 401 "invalid_client" "client_secret is required")
      .ok app

/-- Whether a challenge was met. A code without a challenge needs no verifier. -/
def verifierAccepted (grant : Grant) (codeVerifier : Option String) : Bool :=
  grant.codeChallenge == "" ||
    (grant.codeChallengeMethod == .s256 &&
      codeVerifier.any fun verifier => env.pkceS256Challenge verifier == grant.codeChallenge)

def authorizationCodeGrant (id : Nat) (raw : String) (app : OAuthApplication) (form : TokenForm) :
    Except Refusal (Db Data × Response) := do
  ensure (form.grantType == .authorizationCode)
    (.oauthError 400 "unsupported_grant_type" "unsupported grant_type")
  let code ← okOr form.code (invalidRequest "code is required")
  let requestedRedirectUri ← okOr form.redirectUri (invalidRequest "redirect_uri is required")
  let redirectUri ← okOr (matchingRedirectUri env app.redirectUri requestedRedirectUri)
    (invalidGrant "redirect_uri mismatch")
  let (consumed, grant) ← okOr (consumeAuthorizationCode env now db code app.id redirectUri)
    (invalidGrant "invalid authorization code")
  -- The code stays consumed when its verifier is refused.
  if verifierAccepted env grant form.codeVerifier then
    createAccessToken env now consumed id raw (some grant.accountId) app.id grant.scopes
  else .ok (consumed, .refused (invalidGrant "invalid PKCE verifier"))

def token (id : Nat) (raw : String) (form : TokenForm) : Except Refusal (Db Data × Response) := do
  let app ← authenticateClient env db form
  if form.grantType = .clientCredentials then do
    let scopes ← (clientCredentialsScopes form.scope app.scopes).mapError
      (.oauthError 400 "invalid_scope")
    createAccessToken env now db id raw none app.id scopes
  else authorizationCodeGrant env now db id raw app form

def revokeAccessToken (raw : String) : Db Data :=
  let tokens := Table.updateWhere (fun token => token.tokenHash == env.secretHash raw)
    (fun token => { token with revokedAt := some now }) db.tokens
  { db with tokens := tokens }

/-- Revoke the tokens of an account that is severed. Its relationships, lists and schedules
are in other tables. -/
def severLocalAccountRelationships (accountId : AccountId) : List OAuthAccessToken :=
  Table.updateWhere (fun token => token.accountId == some accountId && token.revokedAt.isNone)
    (fun token => { token with revokedAt := some now }) db.tokens

def setAccountSuspendedById (accountId : AccountId) (suspended : Bool) : Db Data :=
  match findLocalAccountById db accountId with
  | none => db
  | some account =>
      let wasSuspended := account.suspendedAt.isSome
      let accounts := Table.updateWhere (fun account => account.id == accountId)
        (fun account => { account with suspendedAt := if suspended then some now else none })
        db.accounts
      let tokens := if suspended && !wasSuspended then severLocalAccountRelationships now db accountId
        else db.tokens
      { db with accounts := accounts, tokens := tokens }

end

/-!
## Runs
-/

inductive Request (Data : Type) where
  | login (form : LoginForm)
  | changePassword (salt : Nat) (cookieHeader : Option String) (form : ChangePasswordForm)
  | registerApp (id : Nat) (clientId clientSecret : String) (form : CreateAppForm)
  | authorize (code : String) (cookieHeader : Option String) (params : AuthorizeParams)
      (decision : AuthorizationDecision)
  | token (id : Nat) (raw : String) (form : TokenForm)
  | revoke (raw : String)
  /-- A handler behind `AuthenticatedAccount`. -/
  | asAccount (authorization : Option String) (handler : LocalAccount → Data → Option Data)
  /-- A handler behind `AuthenticatedAccessToken`. -/
  | asGrant (authorization : Option String) (handler : AccessTokenGrant → Data → Option Data)
  | setSuspended (accountId : AccountId) (suspended : Bool)
  | createAccount (account : LocalAccount)
  | write (data : Data)

structure Call (Data : Type) where
  now : Int
  request : Request Data

section

variable {Data : Type} (env : Environment)

/-- What a handler leaves, unless it refuses the request. -/
def handled (db : Db Data) (written : Option Data) : Except Refusal (Db Data × Response) :=
  match written with
  | some data => .ok ({ db with data := data }, .ok)
  | none => .error .handler

def perform (now : Int) (db : Db Data) : Request Data → Except Refusal (Db Data × Response)
  | .login form => login env now db form
  | .changePassword salt cookieHeader form => changePassword env now db salt cookieHeader form
  | .registerApp id clientId clientSecret form => registerApp env db id clientId clientSecret form
  | .authorize code cookieHeader params decision =>
      authorize env now db code cookieHeader params decision
  | .token id raw form => token env now db id raw form
  | .revoke raw => .ok (revokeAccessToken env now db raw, .ok)
  | .asAccount authorization handler => do
      let account ← authenticatedAccount env now db authorization
      handled db (handler account db.data)
  | .asGrant authorization handler => do
      let grant ← authenticatedAccessToken env now db authorization
      handled db (handler grant db.data)
  | .setSuspended accountId suspended =>
      .ok (setAccountSuspendedById now db accountId suspended, .ok)
  | .createAccount account => do
      ensure (db.accounts.all fun row => row.id != account.id && row.username != account.username &&
        row.email != account.email) (.serverError (.database "local_account_key"))
      .ok ({ db with accounts := db.accounts ++ [account] }, .ok)
  | .write data => .ok ({ db with data := data }, .ok)

def step (db : Db Data) (call : Call Data) : Db Data × Response :=
  match perform env call.now db call.request with
  | .ok result => result
  | .error refusal => (db, .refused refusal)

def machine : Machine (Db Data) (Call Data) Response where
  step := step env

end

end Roosty.Auth.Access
