import Roosty.Core
import Roosty.Library.ReadCommitted

/-!
# Authorization codes

A token request consumes the authorization code that it presents. The statements
of `consume_authorization_code` are those of the transaction of the request, which
commits when it has issued a token or refused the verifier.
-/

set_option autoImplicit false

namespace Roosty.Auth

open Library Library.ReadCommitted

inductive PkceCodeChallengeMethod where
  | none
  | s256
deriving DecidableEq

/-- A row of `oauth_authorization_code`, whose key is the unique hash of the code. -/
structure AuthorizationCode where
  accountId : AccountId
  applicationId : Nat
  redirectUri : String
  scopes : String
  codeChallenge : String
  codeChallengeMethod : PkceCodeChallengeMethod
  expiresAt : Int
  consumedAt : Option Int
deriving DecidableEq

structure Grant where
  accountId : AccountId
  scopes : String
  codeChallenge : String
  codeChallengeMethod : PkceCodeChallengeMethod
deriving DecidableEq

/-- The arguments of one call, with the hash of the code under the pepper. -/
structure Call where
  codeHash : String
  applicationId : Nat
  redirectUri : String
deriving DecidableEq

/-- A call with what it does next. A call that has returned says when. -/
inductive Position where
  | find (call : Call)
  | check (call : Call) (code : AuthorizationCode)
  | update (call : Call) (code : AuthorizationCode)
  | returned (call : Call) (grant : Option Grant) (time : Int)
  | failed (call : Call)
deriving DecidableEq

def AuthorizationCode.grant (code : AuthorizationCode) : Grant :=
  ⟨code.accountId, code.scopes, code.codeChallenge, code.codeChallengeMethod⟩

def AuthorizationCode.matches (code : AuthorizationCode) (call : Call) : Bool :=
  code.applicationId == call.applicationId && code.redirectUri == call.redirectUri &&
    code.consumedAt.isNone

abbrev Codes := Rows String AuthorizationCode

def consumed (now : Int) (call : Call) (codes : Codes) : Writes String AuthorizationCode :=
  fun hash =>
    if hash = call.codeHash then
      (codes hash).map fun code => some { code with consumedAt := some now }
    else none

def consumeAuthorizationCode (now : Int) : Position → Instruction String AuthorizationCode Position
  | .find call => .statement (fun _ => .none) fun codes =>
      match (codes call.codeHash).filter fun code => code.matches call with
      | some code => .check call code
      | none => .returned call none now
  | .check call code => .statement (fun _ => .none) fun _ =>
      if code.expiresAt ≤ now then .returned call none now else .update call code
  | .update call code => .statement (consumed now call) fun codes =>
      if (codes call.codeHash).isSome then .returned call (some code.grant) now else .failed call
  | .returned _ (some _) _ => .commit
  | .returned _ none _ | .failed _ => .rollback

def tokenRequest : Code String AuthorizationCode Position where
  starts position := ∃ call, position = .find call
  instruction := consumeAuthorizationCode

def redemptions (hash : String) (events : List (Event Position)) : List Int :=
  events.filterMap fun
    | .executes _ _ (.returned call (some _) time) =>
        if call.codeHash = hash then some time else none
    | _ => none

end Roosty.Auth
