import Roosty.Account.FollowCollection
import Roosty.Library.FormQuery
import Roosty.Library.JsonObject

/-!
# Collections of local actors

The documents of ActivityStreams collections, and the endpoints that serve the follow
collections of an actor to other servers. The texts of activities, and the decoder of
query strings, are parameters.
-/

set_option autoImplicit false

namespace Roosty.Federation.Collections

open Library Account Account.FollowCollection

/-!
## Documents
-/

def activitystreamsContext : String := "https://www.w3.org/ns/activitystreams"

inductive CollectionType where
  | collection
  | orderedCollection
  | orderedCollectionPage
deriving DecidableEq

def CollectionType.name : CollectionType → String
  | .collection => "Collection"
  | .orderedCollection => "OrderedCollection"
  | .orderedCollectionPage => "OrderedCollectionPage"

inductive RenameRule where
  | asWritten
  | camelCase
deriving DecidableEq

def pascalCase : Bool → List Char → List Char
  | _, [] => []
  | capitalize, letter :: rest =>
      if letter = '_' then pascalCase true rest
      else (if capitalize then letter.toUpper else letter) :: pascalCase false rest

def toCamelCase (name : List Char) : List Char :=
  match pascalCase true name with
  | [] => []
  | first :: rest => first.toLower :: rest

def RenameRule.apply : RenameRule → String → String
  | .asWritten, name => name
  | .camelCase, name => String.ofList (toCamelCase name.toList)

/-- The document of a struct, whose fields are skipped where there is no value. The field of
the context has an attribute of its own. -/
def serialize (rule : RenameRule) (fields : List (String × Option Json)) : Json :=
  .object (("@context", .string activitystreamsContext) ::
    fields.filterMap fun (name, value) => value.map (rule.apply name, ·))

def number (value : Nat) : Json := .number (.posInt value)

structure OutboxCollection where
  id : String
  type : CollectionType
  totalItems : Nat
  first : String
  last : String

def OutboxCollection.json (collection : OutboxCollection) : Json :=
  serialize .camelCase [("id", some (.string collection.id)),
    ("type", some (.string collection.type.name)),
    ("total_items", some (number collection.totalItems)),
    ("first", some (.string collection.first)), ("last", some (.string collection.last))]

structure OutboxCollectionPage where
  id : String
  type : CollectionType
  partOf : String
  totalItems : Nat
  orderedItems : List Json
  next : Option String
  prev : Option String

def OutboxCollectionPage.json (page : OutboxCollectionPage) : Json :=
  serialize .camelCase [("id", some (.string page.id)), ("type", some (.string page.type.name)),
    ("part_of", some (.string page.partOf)), ("total_items", some (number page.totalItems)),
    ("ordered_items", some (.array page.orderedItems)), ("next", page.next.map .string),
    ("prev", page.prev.map .string)]

structure FeaturedCollection where
  id : String
  type : CollectionType
  totalItems : Nat
  orderedItems : List Json

def FeaturedCollection.json (collection : FeaturedCollection) : Json :=
  serialize .camelCase [("id", some (.string collection.id)),
    ("type", some (.string collection.type.name)),
    ("total_items", some (number collection.totalItems)),
    ("ordered_items", some (.array collection.orderedItems))]

structure Collection where
  id : String
  type : CollectionType
  totalItems : Nat
  first : Option String

def Collection.json (collection : Collection) : Json :=
  serialize .camelCase [("id", some (.string collection.id)),
    ("type", some (.string collection.type.name)),
    ("total_items", some (number collection.totalItems)),
    ("first", collection.first.map .string)]

structure OrderedCollectionPage where
  id : String
  type : CollectionType
  orderedItems : List String
  next : Option String

def OrderedCollectionPage.json (page : OrderedCollectionPage) : Json :=
  serialize .asWritten [("id", some (.string page.id)), ("type", some (.string page.type.name)),
    ("ordered_items", some (.array (page.orderedItems.map .string))),
    ("next", page.next.map .string)]

/-!
## Queries
-/

structure Server where
  federationEnabled : Bool
  publicUrl : String → String
  formDecode : List Char → String

variable (server : Server)

def actorUrl (username : String) : String := server.publicUrl ("users/" ++ username)

structure CollectionQuery where
  page : Option Bool
  maxId : Option Nat
deriving DecidableEq

/-- `none` stands for a bad request. -/
def collectionQuery (query : Option String) : Option CollectionQuery := do
  let pairs := FormQuery.formPairs server.formDecode (query.getD "")
  let page ← FormQuery.formField FormQuery.parseBool "page" pairs
  let maxId ← FormQuery.formField Text.parseUuid "max_id" pairs
  some ⟨page, maxId⟩

/-- The answer of an endpoint for a URL, with a query or without one. -/
def fetch (collection : String) (serve : Option String → Option Json) (url : String) :
    Option Json :=
  if url = collection then serve none
  else ((collection ++ "?").toList.isPrefixOf? url.toList).bind fun query =>
    serve (some (String.ofList query))

/-!
## Follow collections
-/

inductive FollowList where
  | followers
  | following
deriving DecidableEq

def FollowList.name : FollowList → String
  | .followers => "followers"
  | .following => "following"

section

variable (db : FollowDb) (ids : RowIds) (list : FollowList) (account : AccountId)

def followPage (limit : Nat) (cursor : Timeline.CollectionCursor) :
    Paging.Page Timeline.FollowCollectionEntry :=
  match list with
  | .followers => followersForLocalAccount db ids account limit cursor
  | .following => followingForLocalAccount db ids account limit cursor

def followCount : Nat :=
  match list with
  | .followers => countLocalFollowers db account + countRemoteFollowers db account
  | .following => countLocalFollowing db account + countRemoteFollowing db account

def usernameOf (id : AccountId) : String :=
  ((db.remote.inbox.localAccounts.find? fun account => account.id == id).map
    Inbox.LocalAccount.username).getD ""

def actorId (entry : Timeline.FollowCollectionEntry) : String :=
  match entry.account with
  | .localAccount account => actorUrl server (usernameOf db account.id)
  | .remoteActor actor => (db.actor actor.id).activitypubId

def collectionUrl (username : String) : String := actorUrl server username ++ "/" ++ list.name

def pageUrl (username : String) : Option Nat → String
  | none => collectionUrl server list username ++ "?page=true"
  | some cursor =>
      collectionUrl server list username ++ "?page=true&max_id=" ++ Text.uuidText cursor

def activityCollectionPage (username : String) (maxId : Option Nat) : OrderedCollectionPage :=
  let page := followPage db ids list account 20 ⟨maxId, none, none⟩
  let next := if page.hasMore then page.lastCursor else none
  { id := pageUrl server list username none
    type := .orderedCollectionPage
    orderedItems := page.items.map (actorId server db)
    next := next.map fun cursor => pageUrl server list username (some cursor) }

def accountForCollection (username : String) : Option AccountId :=
  if !server.federationEnabled then none
  else
    ((db.remote.inbox.localAccounts.find? fun account => account.username == username).map
      Inbox.LocalAccount.id).filter fun id => (db.suspendedAt id).isNone

/-- Serve the actor's collection metadata, or a page of it. `none` stands for an error. -/
def serveFollows (username : String) (query : Option String) : Option Json := do
  let query ← collectionQuery server query
  let account ← accountForCollection server db username
  if query.page ≠ some true then
    some (Collection.json
      { id := collectionUrl server list username
        type := .collection
        totalItems := followCount db list account
        first := some (pageUrl server list username none) })
  else some (activityCollectionPage server db ids list account username query.maxId).json

def fetchFollows (username : String) : String → Option Json :=
  fetch (collectionUrl server list username) (serveFollows server db ids list username)

end

end Roosty.Federation.Collections
