import Roosty.Core
import Roosty.Library.Machine
import Roosty.Library.Result
import Roosty.Library.Table

/-!
# Rate limit of registrations

Attempts to register are recorded under a keyed hash of the client's address group. A
client has a short and a long rolling window, each with a limit of its own. Calls of one
client are serialized by an advisory lock, and a call is one transaction.
-/

set_option autoImplicit false

namespace Roosty.Registration

open Library

/-!
## Configuration
-/

/-- Durations are microseconds. The trusted proxies are left out. -/
structure RegistrationRateLimitConfig where
  burstLimit : Nat
  burstWindow : Nat
  dailyLimit : Nat
  dailyWindow : Nat
  ipv6PrefixLength : Nat
deriving DecidableEq

namespace RegistrationRateLimitConfig

def default : RegistrationRateLimitConfig where
  burstLimit := 5
  burstWindow := 30 * 60 * 1000000
  dailyLimit := 20
  dailyWindow := 24 * 60 * 60 * 1000000
  ipv6PrefixLength := 64

/-- The checks of `from_env`, with the text of the configuration error. -/
def checked (value : RegistrationRateLimitConfig) : Except String RegistrationRateLimitConfig :=
  if value.burstLimit = 0 ∨ value.dailyLimit = 0 then
    .error "registration rate limits must be positive"
  else if value.dailyWindow ≤ value.burstWindow then
    .error ("ROOSTY_REGISTRATION_DAILY_WINDOW must be greater than " ++
      "ROOSTY_REGISTRATION_BURST_WINDOW")
  else if value.dailyLimit < value.burstLimit then
    .error "ROOSTY_REGISTRATION_DAILY_LIMIT must be at least ROOSTY_REGISTRATION_BURST_LIMIT"
  else if value.ipv6PrefixLength < 1 ∨ 128 < value.ipv6PrefixLength then
    .error "ROOSTY_REGISTRATION_IPV6_PREFIX_LENGTH must be between 1 and 128"
  else .ok value

end RegistrationRateLimitConfig

/-- Validated rolling-window policy supplied by the server configuration boundary. -/
structure RegistrationRateLimitSettings where
  burstLimit : Nat
  burstWindow : Int
  dailyLimit : Nat
  dailyWindow : Int
deriving DecidableEq

def RegistrationRateLimitConfig.settings (limits : RegistrationRateLimitConfig) :
    RegistrationRateLimitSettings where
  burstLimit := limits.burstLimit
  burstWindow := limits.burstWindow
  dailyLimit := limits.dailyLimit
  dailyWindow := limits.dailyWindow

/-!
## Attempts
-/

structure RegistrationAttempt where
  id : Nat
  clientId : String
  attemptedAt : Int
deriving DecidableEq

inductive RegistrationRateLimitPolicy where
  | burst
  | daily
deriving DecidableEq

/-- Result of atomically checking and, when allowed, recording a registration attempt. -/
structure RegistrationRateLimitResult where
  allowed : Bool
  policy : RegistrationRateLimitPolicy
  limit : Nat
  remaining : Nat
  resetAt : Int
deriving DecidableEq

inductive Failure where
  | error (error : RoostyError)
  /-- A subtraction of unsigned integers below zero. -/
  | overflow
deriving DecidableEq

def checkedSub (first second : Nat) : Except Failure Nat :=
  if second ≤ first then .ok (first - second) else .error .overflow

/-- Bound global cleanup work: at most a hundred of the oldest rows go, whoever's they are. -/
def cleanUp (attempts : List RegistrationAttempt) (cutoff : Int) : List RegistrationAttempt :=
  let expired := (attempts.filter fun row => row.attemptedAt ≤ cutoff).mergeSort fun first second =>
    first.attemptedAt < second.attemptedAt ||
      (first.attemptedAt == second.attemptedAt && first.id ≤ second.id)
  Table.deleteWhere (fun row => (expired.take 100).any fun gone => gone.id == row.id) attempts

def attemptTimes (attempts : List RegistrationAttempt) (clientId : String) (cutoff : Int) :
    List Int :=
  ((attempts.filter fun row => row.clientId == clientId && cutoff < row.attemptedAt).map
    RegistrationAttempt.attemptedAt).mergeSort fun first second => first ≤ second

def insertAttempt (attempts : List RegistrationAttempt) (row : RegistrationAttempt) :
    Except Failure (List RegistrationAttempt) :=
  if attempts.any fun other => other.id == row.id then
    .error (.error (.database "registration_attempt_pkey"))
  else .ok (attempts ++ [row])

/-!
## The check
-/

section

variable (settings : RegistrationRateLimitSettings) (now : Int) (attempts : List Int)

def burstAttempts : Nat := attempts.countP fun attemptedAt => now - settings.burstWindow < attemptedAt

def dailyAttempts : Nat := attempts.length

def burstReset : Int :=
  match attempts.find? fun attemptedAt => now - settings.burstWindow < attemptedAt with
  | some attemptedAt => attemptedAt + settings.burstWindow
  | none => now + settings.burstWindow

def dailyReset : Int :=
  match attempts.head? with
  | some attemptedAt => attemptedAt + settings.dailyWindow
  | none => now + settings.dailyWindow

def burstBlocked : Bool := settings.burstLimit ≤ burstAttempts settings now attempts

def dailyBlocked : Bool := settings.dailyLimit ≤ dailyAttempts attempts

def denial : RegistrationRateLimitResult :=
  let burstReset := burstReset settings now attempts
  let dailyReset := dailyReset settings now attempts
  if dailyBlocked settings attempts &&
      (!burstBlocked settings now attempts || burstReset ≤ dailyReset) then
    ⟨false, .daily, settings.dailyLimit, 0, dailyReset⟩
  else ⟨false, .burst, settings.burstLimit, 0, burstReset⟩

def allowance : Except Failure RegistrationRateLimitResult := do
  let burstRemaining ← checkedSub settings.burstLimit (burstAttempts settings now attempts)
  let burstRemaining ← checkedSub burstRemaining 1
  let dailyRemaining ← checkedSub settings.dailyLimit (dailyAttempts attempts)
  let dailyRemaining ← checkedSub dailyRemaining 1
  if dailyRemaining < burstRemaining then
    .ok ⟨true, .daily, settings.dailyLimit, dailyRemaining, dailyReset settings now attempts⟩
  else
    .ok ⟨true, .burst, settings.burstLimit, burstRemaining, burstReset settings now attempts⟩

end

variable (secretHash : String → String → Except RoostyError String) (tokenPepper : String)

def clientIdOf (clientGroup : String) : Except RoostyError String :=
  secretHash tokenPepper ("registration-rate-limit\x00" ++ clientGroup)

/-- Serialize one privacy-preserving client key and enforce exact rolling windows. `id` is
the identifier of a new row. -/
def checkRegistrationRateLimit (attempts : List RegistrationAttempt) (id : Nat)
    (clientGroup : String) (now : Int) (settings : RegistrationRateLimitSettings) :
    Except Failure (List RegistrationAttempt × RegistrationRateLimitResult) := do
  let clientId ← (clientIdOf secretHash tokenPepper clientGroup).mapError .error
  let attempts := cleanUp attempts (now - settings.dailyWindow)
  let times := attemptTimes attempts clientId (now - settings.dailyWindow)
  if burstBlocked settings now times || dailyBlocked settings times then
    .ok (attempts, denial settings now times)
  else do
    let attempts ← insertAttempt attempts ⟨id, clientId, now⟩
    let result ← allowance settings now times
    .ok (attempts, result)

structure Call where
  id : Nat
  clientGroup : String
  now : Int
deriving DecidableEq

/-- A failed call rolls back. -/
def limiter (settings : RegistrationRateLimitSettings) :
    Machine (List RegistrationAttempt) Call (Except Failure RegistrationRateLimitResult) where
  step attempts call :=
    match checkRegistrationRateLimit secretHash tokenPepper attempts call.id call.clientGroup
        call.now settings with
    | .ok (after, result) => (after, .ok result)
    | .error failure => (attempts, .error failure)

end Roosty.Registration
