import Mathlib.Data.Prod.Lex
import Mathlib.Data.Sum.Order
import Roosty.Core
import Roosty.Library.Base64Url
import Roosty.Library.Keyset
import Roosty.Library.Result
import Roosty.Library.Text
import Roosty.Library.TextMatch

/-!
# The account browser of administrators

Pages of local or of remote accounts, filtered by a query and sorted by a column. A cursor
holds the sort key of a row, and is refused by every other view. The order of texts is that
of the database; the format of cursors and both conversions to lower case are parameters.
-/

set_option autoImplicit false

namespace Roosty.Admin

open Library

/-!
## Accounts
-/

structure LocalAccount where
  id : AccountId
  username : String
  displayName : String
  email : String
  isAdmin : Bool
  limitedAt : Option Int
  suspendedAt : Option Int
  dataPurgedAt : Option Int
  createdAt : Int
deriving DecidableEq

structure RemoteActor where
  id : AccountId
  username : String
  domain : String
  displayName : String
  limitedAt : Option Int
  suspendedAt : Option Int
  dataPurgedAt : Option Int
  profileCreatedAt : Option Int
  createdAt : Int
  deletedAt : Option Int
deriving DecidableEq

structure AccountsDb where
  localAccounts : List LocalAccount
  remoteActors : List RemoteActor

/-- Administrative projection shared by compatible and first-party account views. -/
structure AdminAccount where
  id : AccountId
  username : String
  domain : Option String
  email : Option String
  displayName : String
  isAdmin : Bool
  limited : Bool
  suspended : Bool
  dataPurgedAt : Option Int
  createdAt : Int
deriving DecidableEq

def localAdminAccount (account : LocalAccount) : AdminAccount where
  id := account.id
  username := account.username
  domain := none
  email := some account.email
  displayName := account.displayName
  isAdmin := account.isAdmin
  limited := account.limitedAt.isSome
  suspended := account.suspendedAt.isSome
  dataPurgedAt := account.dataPurgedAt
  createdAt := account.createdAt

def remoteAdminAccount (actor : RemoteActor) : AdminAccount where
  id := actor.id
  username := actor.username
  domain := some actor.domain
  email := none
  displayName := actor.displayName
  isAdmin := false
  limited := actor.limitedAt.isSome
  suspended := actor.suspendedAt.isSome
  dataPurgedAt := actor.dataPurgedAt
  createdAt := actor.profileCreatedAt.getD actor.createdAt

/-!
## Views and cursors
-/

inductive AdminAccountOrigin where
  | localOrigin
  | remoteOrigin
deriving DecidableEq

inductive AdminAccountSort where
  | account
  | email
  | role
  | state
  | createdAt
deriving DecidableEq

inductive AdminAccountSortDirection where
  | ascending
  | descending
deriving DecidableEq

inductive AdminAccountCursorNavigation where
  | previous
  | next
deriving DecidableEq

structure Collated where
  value : String

inductive AdminAccountCursorKey where
  | text (value : Collated)
  | boolean (value : Bool)
  | state (value : Int)
  | timestamp (value : Int)

structure AdminAccountCursor where
  version : Nat
  origin : AdminAccountOrigin
  sort : AdminAccountSort
  direction : AdminAccountSortDirection
  navigation : AdminAccountCursorNavigation
  key : AdminAccountCursorKey
  id : AccountId

structure AdminAccountPageOptions where
  query : String
  origin : AdminAccountOrigin
  sort : AdminAccountSort
  direction : AdminAccountSortDirection
  limit : Nat
  cursor : Option String

structure AdminAccountPage where
  accounts : List AdminAccount
  previousCursor : Option String
  nextCursor : Option String

inductive AdminError where
  | invalidInput (message : String)
  | serialization
  | database
deriving DecidableEq

structure Environment where
  /-- `lower` of the database, and `to_lowercase` of the program. -/
  lower : String → String
  toLowercase : String → String
  toVec : AdminAccountCursor → Option (List UInt8)
  fromSlice : List UInt8 → Option AdminAccountCursor

section

variable (env : Environment)

def adminAccountCursorKey (account : AdminAccount) (sort : AdminAccountSort) :
    Except AdminError AdminAccountCursorKey :=
  match sort with
  | .account =>
      .ok (.text ⟨match account.domain with
        | none => env.toLowercase account.username
        | some domain => env.toLowercase (account.username ++ "@" ++ domain)⟩)
  | .email =>
      match account.email with
      | some email => .ok (.text ⟨env.toLowercase email⟩)
      | none => .error (.invalidInput "remote account has no email")
  | .role => .ok (.boolean account.isAdmin)
  | .state => .ok (.state (if account.suspended then 2 else if account.limited then 1 else 0))
  | .createdAt => .ok (.timestamp account.createdAt)

def encodeAdminAccountCursor (account : AdminAccount) (options : AdminAccountPageOptions)
    (navigation : AdminAccountCursorNavigation) : Except AdminError String := do
  let key ← adminAccountCursorKey env account options.sort
  let cursor : AdminAccountCursor :=
    ⟨1, options.origin, options.sort, options.direction, navigation, key, account.id⟩
  let bytes ← okOr (env.toVec cursor) .serialization
  .ok (String.ofList (Base64.encodeUrl bytes))

def decodeAdminAccountCursor (value : String) : Except AdminError AdminAccountCursor := do
  let decoded ← okOr (Base64.decodeUrl value.toList)
    (.invalidInput "invalid administrator account cursor")
  okOr (env.fromSlice decoded) (.invalidInput "invalid administrator account cursor")

/-- The cursor of a request, if it belongs to the requested view. -/
def requestedCursor (options : AdminAccountPageOptions) :
    Except AdminError (Option AdminAccountCursor) :=
  match options.cursor with
  | none => .ok none
  | some value => do
      let cursor ← decodeAdminAccountCursor env value
      if cursor.version ≠ 1 ∨ cursor.origin ≠ options.origin ∨ cursor.sort ≠ options.sort ∨
          cursor.direction ≠ options.direction then
        .error (.invalidInput "administrator account cursor does not match the requested view")
      else .ok (some cursor)

/-!
## Queries
-/

def lowerContains (column pattern : String) : Bool :=
  TextMatch.like (env.lower column).toList pattern.toList

def admits (query : String) (columns : List String) : Bool :=
  query.isEmpty || columns.any fun column => lowerContains env column ("%" ++ query ++ "%")

def localSelected (query : String) (account : LocalAccount) : Bool :=
  admits env query [account.username, account.displayName, account.email]

def remoteSelected (query : String) (actor : RemoteActor) : Bool :=
  actor.deletedAt.isNone && admits env query [actor.username, actor.displayName, actor.domain]

def stateOf (suspendedAt limitedAt : Option Int) : Int :=
  if suspendedAt.isSome then 2 else if limitedAt.isSome then 1 else 0

def localAdminAccountSortExpr (sort : AdminAccountSort) (account : LocalAccount) :
    AdminAccountCursorKey :=
  match sort with
  | .account => .text ⟨env.lower account.username⟩
  | .email => .text ⟨env.lower account.email⟩
  | .role => .boolean account.isAdmin
  | .state => .state (stateOf account.suspendedAt account.limitedAt)
  | .createdAt => .timestamp account.createdAt

def remoteAdminAccountSortExpr (sort : AdminAccountSort) :
    Except AdminError (RemoteActor → AdminAccountCursorKey) :=
  match sort with
  | .account => .ok fun actor => .text ⟨env.lower (actor.username ++ "@" ++ actor.domain)⟩
  | .state => .ok fun actor => .state (stateOf actor.suspendedAt actor.limitedAt)
  | .createdAt => .ok fun actor => .timestamp (actor.profileCreatedAt.getD actor.createdAt)
  | .email | .role =>
      .error (.invalidInput "remote accounts cannot be sorted by email or role")

end

/-- The type of a sort expression; comparing it with another type is an error. -/
def comparable (sort : AdminAccountSort) (key : AdminAccountCursorKey) : Bool :=
  match sort, key with
  | .account, .text _ => true
  | .email, .text _ => true
  | .role, .boolean _ => true
  | .state, .state _ => true
  | .createdAt, .timestamp _ => true
  | _, _ => false

def reverseAdminSortDirection : AdminAccountSortDirection → AdminAccountSortDirection
  | .ascending => .descending
  | .descending => .ascending

section

variable [LinearOrder Collated]

/-- Keys of one type are compared as their values; which type comes first does not matter. -/
def AdminAccountCursorKey.toSum : AdminAccountCursorKey → Collated ⊕ₗ (Bool ⊕ₗ (Int ⊕ₗ Int))
  | .text value => Sum.inlₗ value
  | .boolean value => Sum.inrₗ (Sum.inlₗ value)
  | .state value => Sum.inrₗ (Sum.inrₗ (Sum.inlₗ value))
  | .timestamp value => Sum.inrₗ (Sum.inrₗ (Sum.inrₗ value))

omit [LinearOrder Collated] in
theorem AdminAccountCursorKey.toSum_injective : Function.Injective toSum := by
  intro first second same
  cases first <;> cases second <;> cases same <;> rfl

instance : LinearOrder AdminAccountCursorKey :=
  LinearOrder.lift' AdminAccountCursorKey.toSum AdminAccountCursorKey.toSum_injective

def adminAccountCursorCondition (direction : AdminAccountSortDirection) (key : AdminAccountCursorKey)
    (id : AccountId) (cursor : AdminAccountCursor) : Bool :=
  match direction with
  | .ascending =>
      decide (cursor.key < key) || (decide (key = cursor.key) && decide (cursor.id.value < id.value))
  | .descending =>
      decide (key < cursor.key) || (decide (key = cursor.key) && decide (id.value < cursor.id.value))

/-- The columns of `ORDER BY`. -/
def position {Row : Type} (sortExpr : Row → AdminAccountCursorKey) (id : Row → AccountId)
    (row : Row) : AdminAccountCursorKey ×ₗ Nat :=
  toLex (sortExpr row, (id row).value)

def orderBy {Row Key : Type} [LinearOrder Key] (direction : AdminAccountSortDirection)
    (key : Row → Key) (rows : List Row) : List Row :=
  match direction with
  | .ascending => Keyset.arrange key rows
  | .descending => Keyset.arrange (OrderDual.toDual ∘ key) rows

def selectAccounts {Row : Type} (sort : AdminAccountSort) (sortExpr : Row → AdminAccountCursorKey)
    (id : Row → AccountId) (make : Row → AdminAccount) (rows : List Row)
    (cursor : Option AdminAccountCursor) (direction : AdminAccountSortDirection) (fetchLimit : Nat) :
    Except AdminError (List AdminAccount) :=
  if cursor.any (fun cursor => !comparable sort cursor.key) then .error .database
  else
    let selected := rows.filter fun row =>
      cursor.all (adminAccountCursorCondition direction (sortExpr row) (id row))
    .ok (((orderBy direction (position sortExpr id) selected).take fetchLimit).map make)

variable (env : Environment) (db : AccountsDb)

def fetchAccounts (options : AdminAccountPageOptions) (cursor : Option AdminAccountCursor)
    (direction : AdminAccountSortDirection) (fetchLimit : Nat) :
    Except AdminError (List AdminAccount) :=
  let query := env.toLowercase (Text.trim options.query)
  match options.origin with
  | .localOrigin =>
      selectAccounts options.sort (localAdminAccountSortExpr env options.sort) LocalAccount.id
        localAdminAccount (db.localAccounts.filter (localSelected env query)) cursor direction
        fetchLimit
  | .remoteOrigin => do
      let sortExpr ← remoteAdminAccountSortExpr env options.sort
      selectAccounts options.sort sortExpr RemoteActor.id remoteAdminAccount
        (db.remoteActors.filter (remoteSelected env query)) cursor direction fetchLimit

/-!
## Pages
-/

omit [LinearOrder Collated] in
/-- The cursor at an edge of a page, where the page has one. -/
def edgeCursor (options : AdminAccountPageOptions) (navigation : AdminAccountCursorNavigation)
    (present : Bool) (account : Option AdminAccount) : Except AdminError (Option String) :=
  match present, account with
  | true, some account => (encodeAdminAccountCursor env account options navigation).map some
  | _, _ => .ok none

def adminAccountPage (options : AdminAccountPageOptions) : Except AdminError AdminAccountPage :=
  if options.origin = .remoteOrigin ∧ (options.sort = .email ∨ options.sort = .role) then
    .error (.invalidInput "remote accounts cannot be sorted by email or role")
  else do
    let cursor ← requestedCursor env options
    let requestedLimit := max 1 (min options.limit 100)
    let backwards := cursor.any fun cursor => cursor.navigation = .previous
    let queryDirection :=
      if backwards then reverseAdminSortDirection options.direction else options.direction
    let accounts ← fetchAccounts env db options cursor queryDirection (requestedLimit + 1)
    let hasExtra := decide (requestedLimit < accounts.length)
    let shown := accounts.take requestedLimit
    let shown := if backwards then shown.reverse else shown
    let hasPrevious := if backwards then hasExtra else cursor.isSome
    let hasNext := if backwards then cursor.isSome else hasExtra
    let previousCursor ← edgeCursor env options .previous hasPrevious shown.head?
    let nextCursor ← edgeCursor env options .next hasNext shown.getLast?
    .ok ⟨shown, previousCursor, nextCursor⟩

end

end Roosty.Admin
