import Mathlib.Data.List.Lex
import Roosty.Federation.Discovery
import Roosty.Library.Machine

/-!
# The cache of remote actors

Three paths accept actor documents: the WebFinger resolution of a handle, the refresh of
an actor by its identifier, and the resolution of the target of a Move. The first
discovers and stores in one transaction; the other two fetch in a transaction of their
own, so that other stores may come between.
-/

set_option autoImplicit false

namespace Roosty.Federation.Discovery

open Library Network

structure RemoteActor where
  id : AccountId
  activitypubId : String
  username : String
  domain : String
  invalidHandle : Bool
  actorType : ActivityPubActorType
  inboxUrl : String
  sharedInboxUrl : Option String
  followersUrl : Option String
  featuredUrl : Option String
  featuredTagsUrl : Option String
  publicKeyId : String
  publicKeyPem : String
  expiresAt : Int
  profileCreatedAt : Option Int
deriving DecidableEq

structure Cache where
  actors : List RemoteActor
  keys : List RemoteActorKey
deriving DecidableEq

def findRemoteActorByHandle (actors : List RemoteActor) (username domain : String) :
    Option RemoteActor :=
  actors.find? fun actor => actor.username == username && actor.domain == domain

def findRemoteActorByActivitypubId (actors : List RemoteActor) (activitypubId : String) :
    Option RemoteActor :=
  actors.find? fun actor => actor.activitypubId == activitypubId

/-!
## Storing
-/

def handleTaken (actors : List RemoteActor) (actor : RemoteActor) (own : Option AccountId) : Bool :=
  actors.any fun row =>
    row.username == actor.username && row.domain == actor.domain && some row.id != own

/-- The row that an update leaves of `existing`. -/
def refreshedActor (actors : List RemoteActor) (actor existing : RemoteActor)
    (replaceIdentity : Bool) : RemoteActor :=
  let identified :=
    if replaceIdentity then
      if actor.invalidHandle || handleTaken actors actor (some existing.id) then
        { existing with invalidHandle := true }
      else
        { existing with username := actor.username, domain := actor.domain, invalidHandle := false }
    else existing
  { identified with
    actorType := actor.actorType
    inboxUrl := actor.inboxUrl
    sharedInboxUrl := actor.sharedInboxUrl
    followersUrl := actor.followersUrl
    featuredUrl := actor.featuredUrl
    featuredTagsUrl := actor.featuredTagsUrl
    publicKeyId := actor.publicKeyId
    publicKeyPem := actor.publicKeyPem
    expiresAt := actor.expiresAt
    profileCreatedAt := actor.profileCreatedAt.or existing.profileCreatedAt }

theorem refreshedActor_endpoints (actors : List RemoteActor) (actor existing : RemoteActor)
    (replaceIdentity : Bool) :
    let row := refreshedActor actors actor existing replaceIdentity
    row.id = existing.id ∧ row.activitypubId = existing.activitypubId ∧
      row.inboxUrl = actor.inboxUrl ∧ row.sharedInboxUrl = actor.sharedInboxUrl := by
  unfold refreshedActor
  dsimp only
  refine ⟨?_, ?_, rfl, rfl⟩
  · split
    · split <;> rfl
    · rfl
  · split
    · split <;> rfl
    · rfl

def insertedActor (actors : List RemoteActor) (actor : RemoteActor) : RemoteActor :=
  if actor.invalidHandle || handleTaken actors actor none then
    { actor with username := "invalid-" ++ Text.uuidText actor.id.value, invalidHandle := true }
  else actor

theorem insertedActor_endpoints (actors : List RemoteActor) (actor : RemoteActor) :
    let row := insertedActor actors actor
    row.id = actor.id ∧ row.activitypubId = actor.activitypubId ∧
      row.inboxUrl = actor.inboxUrl ∧ row.sharedInboxUrl = actor.sharedInboxUrl := by
  unfold insertedActor
  dsimp only
  split <;> exact ⟨rfl, rfl, rfl, rfl⟩

def upsertRemoteActorWithIdentity (actors : List RemoteActor) (actor : RemoteActor)
    (replaceIdentity : Bool) : Except DiscoveryError (List RemoteActor × RemoteActor) :=
  match findRemoteActorByActivitypubId actors actor.activitypubId with
  | some existing =>
      let row := refreshedActor actors actor existing replaceIdentity
      .ok (Table.updateWhere (fun other => other.id == existing.id) (fun _ => row) actors, row)
  | none =>
      if actors.any fun row => row.id == actor.id then
        .error (.failed (.database "remote_actor_pkey"))
      else
        let row := insertedActor actors actor
        .ok (actors ++ [row], row)

structure Discovered where
  actor : RemoteActor
  keys : List ParsedActorKey
deriving DecidableEq

def storeRemoteActorOn (cache : Cache) (discovered : Discovered) :
    Except DiscoveryError (Cache × RemoteActor) := do
  let (actors, actor) ← upsertRemoteActorWithIdentity cache.actors discovered.actor true
  let keys ← replaceRemoteActorKeys cache.keys actor.id discovered.keys
  return (⟨actors, keys⟩, actor)

theorem upsertRemoteActorWithIdentity_cases {actors rows : List RemoteActor}
    {actor row : RemoteActor} {replaceIdentity : Bool}
    (success : upsertRemoteActorWithIdentity actors actor replaceIdentity = .ok (rows, row)) :
    (∃ existing ∈ actors, existing.activitypubId = actor.activitypubId ∧
        row = refreshedActor actors actor existing replaceIdentity ∧
        rows = Table.updateWhere (fun other => other.id == existing.id) (fun _ => row) actors) ∨
      ((∀ other ∈ actors, other.activitypubId ≠ actor.activitypubId) ∧
        (∀ other ∈ actors, other.id ≠ actor.id) ∧
        row = insertedActor actors actor ∧ rows = actors ++ [row]) := by
  unfold upsertRemoteActorWithIdentity findRemoteActorByActivitypubId at success
  cases found : actors.find? fun other => other.activitypubId == actor.activitypubId with
  | some existing =>
      rw [found] at success
      cases success
      have same : existing.activitypubId = actor.activitypubId := by
        simpa using List.find?_some found
      exact .inl ⟨existing, List.mem_of_find?_eq_some found, same, rfl, rfl⟩
  | none =>
      rw [found] at success
      obtain ⟨free, success⟩ := guard_ok success
      cases success
      have new : ∀ other ∈ actors, other.activitypubId ≠ actor.activitypubId := by
        simpa using List.find?_eq_none.mp found
      exact .inr ⟨new, by simpa using free, rfl, rfl⟩

theorem upsertRemoteActorWithIdentity_rows {actors rows : List RemoteActor}
    {actor row : RemoteActor} {replaceIdentity : Bool}
    (success : upsertRemoteActorWithIdentity actors actor replaceIdentity = .ok (rows, row))
    (distinct : (actors.map RemoteActor.id).Nodup) :
    (rows.map RemoteActor.id).Nodup ∧ row.activitypubId = actor.activitypubId ∧
      row.inboxUrl = actor.inboxUrl ∧ row.sharedInboxUrl = actor.sharedInboxUrl ∧
        ∀ other ∈ rows, other = row ∨ other ∈ actors ∧ other.id ≠ row.id := by
  rcases upsertRemoteActorWithIdentity_cases success with
    ⟨existing, member, same, chosen, rfl⟩ | ⟨new, free, chosen, rfl⟩
  · obtain ⟨sameId, identity, inbox, shared⟩ :=
      refreshedActor_endpoints actors actor existing replaceIdentity
    rw [← chosen] at sameId identity inbox shared
    refine ⟨?_, identity.trans same, inbox, shared, ?_⟩
    · have kept : (Table.updateWhere (fun other => other.id == existing.id) (fun _ => row)
          actors).map RemoteActor.id = actors.map RemoteActor.id := by
        rw [Table.updateWhere, List.map_map]
        refine List.map_congr_left ?_
        intro other _
        by_cases own : other.id = existing.id
        · simp [own, sameId]
        · simp [own]
      rwa [kept]
    · intro other updated
      rcases Table.mem_updateWhere.mp updated with ⟨old, distinct⟩ | ⟨_, _, _, stored⟩
      · refine .inr ⟨old, ?_⟩
        rw [sameId]
        simpa using distinct
      · exact .inl stored.symm
  · obtain ⟨sameId, identity, inbox, shared⟩ := insertedActor_endpoints actors actor
    rw [← chosen] at sameId identity inbox shared
    refine ⟨?_, identity, inbox, shared, ?_⟩
    · rw [List.map_append, List.map_singleton]
      refine List.nodup_append.mpr ⟨distinct, List.nodup_singleton _, ?_⟩
      intro id old other added same
      obtain ⟨holder, member, rfl⟩ := List.mem_map.mp old
      rw [List.mem_singleton.mp added, sameId] at same
      exact free holder member same
    · intro other member
      rcases List.mem_append.mp member with old | added
      · exact .inr ⟨old, by rw [sameId]; exact free other old⟩
      · exact .inl (List.mem_singleton.mp added)

theorem storeRemoteActorOn_upserts {cache stored : Cache} {discovered : Discovered}
    {actor : RemoteActor} (success : storeRemoteActorOn cache discovered = .ok (stored, actor)) :
    upsertRemoteActorWithIdentity cache.actors discovered.actor true =
      .ok (stored.actors, actor) := by
  unfold storeRemoteActorOn at success
  obtain ⟨⟨actors, row⟩, upserted, success⟩ := bind_ok success
  obtain ⟨keys, _, success⟩ := bind_ok success
  cases success
  exact upserted

/-!
## Documents
-/

variable (codec : Codec) (resolver : Resolver) (web : Web) (now : Int)

def remoteProfileCreatedAt (document : RemoteActorDocument) :
    Except DiscoveryError (Option Int) :=
  match document.published with
  | none => .ok none
  | some published =>
      match codec.parseRfc3339 published with
      | none => .error (invalid "remote actor published timestamp is invalid")
      | some time => .ok (some time)

def validatedFollowersUrl (actorId : String) (followers : Option String) :
    Except DiscoveryError (Option String) :=
  match followers with
  | none => .ok none
  | some followers => do
      let actor ← okOr (codec.parseUrl actorId) (invalid "remote actor ID is invalid")
      let followers ← okOr (codec.parseUrl followers)
        (invalid "remote actor followers URL is invalid")
      ensure (followers.scheme == "https" && followers.sameOrigin actor)
        (invalid "remote actor followers URL is outside its actor origin")
      return some (codec.urlText followers)

def validatedFeaturedUrl (actorId : String) (featured : Option String) :
    Except DiscoveryError (Option String) :=
  match featured with
  | none => .ok none
  | some featured => do
      let actor ← okOr (codec.parseUrl actorId) (invalid "remote actor ID is invalid")
      let featured ← okOr (codec.parseUrl featured)
        (invalid "remote actor featured URL is invalid")
      ensure (featured.scheme == "https" && featured.username == "" && featured.password.isNone &&
        featured.sameOrigin actor) (invalid "remote actor featured URL is outside its actor origin")
      return some (codec.urlText featured)

def validateInbox (actorId : Network.Url) (target : String) : Except DiscoveryError Unit := do
  let url ← okOr (codec.parseUrl target) (invalid "remote actor inbox URL is invalid")
  ensure (url.scheme == "https" && url.sameOrigin actorId)
    (invalid "remote actor inbox is outside its actor origin")

def validateActorDocument (document : RemoteActorDocument) (requestedUrl : Network.Url)
    (username : String) : Except DiscoveryError Unit := do
  ensure (document.preferredUsername != "" &&
    eqIgnoreAsciiCase document.preferredUsername username)
    (invalid "remote actor identity does not match WebFinger account")
  let actorId ← okOr (codec.parseUrl document.id) (invalid "remote actor ID is invalid")
  ensure (actorId.scheme == "https" && actorId == requestedUrl)
    (invalid "remote actor ID does not match the requested actor URL")
  validateInbox codec actorId document.inbox
  validateInbox codec actorId (document.sharedInbox.getD document.inbox)

def validateInboxDomain (domain inbox : String) : Except DiscoveryError Unit := do
  let url ← okOr (codec.parseUrl inbox) (invalid "remote actor inbox URL is invalid")
  ensure (url.scheme == "https" && url.hostStr.any fun host => eqIgnoreAsciiCase host domain)
    (invalid "remote actor inbox is outside its actor domain")

structure Collections where
  followersUrl : Option String
  featuredUrl : Option String
  featuredTagsUrl : Option String

def validatedCollections (document : RemoteActorDocument) : Except DiscoveryError Collections := do
  let followersUrl ← validatedFollowersUrl codec document.id document.followers
  let featuredUrl ← validatedFeaturedUrl codec document.id document.featured
  let featuredTagsUrl ← validatedFeaturedUrl codec document.id document.featuredTags
  return ⟨followersUrl, featuredUrl, featuredTagsUrl⟩

def documentActor (document : RemoteActorDocument) (id : AccountId) (domain : String)
    (invalidHandle : Bool) (keys : List ParsedActorKey) (collections : Collections)
    (profileCreatedAt : Option Int) : Discovered where
  actor :=
    { id
      activitypubId := document.id
      username := document.preferredUsername
      domain
      invalidHandle
      actorType := document.type
      inboxUrl := document.inbox
      sharedInboxUrl := document.sharedInbox
      followersUrl := collections.followersUrl
      featuredUrl := collections.featuredUrl
      featuredTagsUrl := collections.featuredTagsUrl
      publicKeyId := (legacyProjection codec keys).1
      publicKeyPem := (legacyProjection codec keys).2
      expiresAt := now + 24 * 3600 * 1000000
      profileCreatedAt }
  keys

/-!
## Resolution of a handle
-/

def parseRemoteHandle (handle : String) : Except DiscoveryError (String × String) := do
  let characters := match handle.toList with
    | '@' :: rest => rest
    | whole => whole
  let (username, domain) ← okOr (Text.rsplitOnce '@' characters)
    (invalid "remote account must use username@domain")
  ensure (!username.isEmpty && !domain.isEmpty && !username.contains '/' && !domain.contains '/' &&
    !domain.contains ':') (invalid "remote account handle is invalid")
  return (String.ofList username, String.ofList domain)

def isActivitypubMediaType (mediaType : String) : Bool :=
  let essence := String.ofList
    (Text.trimMatches Text.isWhitespace (mediaType.toList.takeWhile (· != ';')))
  eqIgnoreAsciiCase essence "application/activity+json" ||
    eqIgnoreAsciiCase essence "application/ld+json"

def activitypubActorHref (webfinger : WebFingerResponse) : Option String :=
  webfinger.links.findSome? fun link =>
    if link.rel == "self" && link.type.all isActivitypubMediaType then link.href else none

def handleResource (username domain : String) : String := "acct:" ++ username ++ "@" ++ domain

def webFingerUrl (domain : String) : Option Network.Url :=
  codec.parseUrl ("https://" ++ domain ++ "/.well-known/webfinger")

def fetchWebFinger (url : Network.Url) (username domain : String) :
    Except DiscoveryError WebFingerResponse :=
  fetchJson resolver (fun url => web.webFinger url (handleResource username domain)) url

/-- `resolve_remote_actor` after the cache was consulted and before the actor is stored. -/
def discoverRemoteActor (id : AccountId) (username domain : String) :
    Except DiscoveryError Discovered := do
  let webfingerUrl ← okOr (webFingerUrl codec domain) (invalid "remote domain is invalid")
  let webfinger ← fetchWebFinger resolver web webfingerUrl username domain
  ensure (eqIgnoreAsciiCase webfinger.subject (handleResource username domain))
    (invalid "WebFinger subject does not match requested account")
  let href ← okOr (activitypubActorHref webfinger)
    (invalid "WebFinger response does not include an ActivityPub actor link")
  let actorUrl ← okOr (codec.parseUrl href) (invalid "WebFinger actor URL is invalid")
  let document ← fetchJson resolver web.actor actorUrl
  validateActorDocument codec document actorUrl username
  let keys ← actorKeys codec resolver web document now
  let profileCreatedAt ← remoteProfileCreatedAt codec document
  let collections ← validatedCollections codec document
  return documentActor codec now document id domain false keys collections profileCreatedAt

def resolveRemoteActor (cache : Cache) (id : AccountId) (handle : String) :
    Except DiscoveryError (Cache × RemoteActor) := do
  let (username, domain) ← parseRemoteHandle handle
  let domain := toLowercase domain
  let fresh := (findRemoteActorByHandle cache.actors username domain).filter (now < ·.expiresAt)
  match fresh with
  | some actor => return (cache, actor)
  | none =>
      let discovered ← discoverRemoteActor codec resolver web now id username domain
      storeRemoteActorOn cache discovered

/-!
## Refresh and Move
-/

def verifyRemoteHandle (username domain activitypubId : String) : Bool :=
  match webFingerUrl codec domain with
  | none => false
  | some url =>
      match fetchWebFinger resolver web url username domain with
      | .error _ => false
      | .ok webfinger =>
          eqIgnoreAsciiCase webfinger.subject (handleResource username domain) &&
            activitypubActorHref webfinger == some activitypubId

/-- The cached handle of an actor is valid and has the username of its document. -/
def handleUnchanged (cached : Option RemoteActor) (document : RemoteActorDocument) : Bool :=
  cached.any fun actor => !actor.invalidHandle && actor.username == document.preferredUsername

def fetchRemoteActorById (actors : List RemoteActor) (id : AccountId) (activitypubId : String) :
    Except DiscoveryError Discovered := do
  let actorUrl ← okOr (codec.parseUrl activitypubId) (invalid "remote actor ID is invalid")
  let domain ← okOr (actorUrl.hostStr.map toLowercase) (invalid "remote actor ID has no host")
  let document ← fetchJson resolver web.actor actorUrl
  ensure (document.id == activitypubId && document.preferredUsername != "")
    (invalid "remote actor document is invalid")
  let keys ← actorKeys codec resolver web document now
  let profileCreatedAt ← remoteProfileCreatedAt codec document
  let collections ← validatedCollections codec document
  validateInboxDomain codec domain document.inbox
  let cached := findRemoteActorByActivitypubId actors activitypubId
  let handleDomain := (cached.map RemoteActor.domain).getD domain
  let handleValid := handleUnchanged cached document ||
    verifyRemoteHandle codec resolver web document.preferredUsername handleDomain activitypubId
  return documentActor codec now document id handleDomain (!handleValid) keys collections
    profileCreatedAt

/-- `resolve_remote_move_target` before the actor is stored: the target must declare the
source. -/
def fetchRemoteMoveTarget (id : AccountId) (targetId sourceId : String) :
    Except DiscoveryError Discovered := do
  let actorUrl ← okOr (codec.parseUrl targetId) (invalid "remote Move target is invalid")
  let domain ← okOr (actorUrl.hostStr.map toLowercase) (invalid "remote Move target has no host")
  let document ← fetchJson resolver web.actor actorUrl
  let keys ← actorKeys codec resolver web document now
  ensure (document.type == .person && document.id == targetId && document.preferredUsername != "" &&
    document.alsoKnownAs.any (· == sourceId)) (invalid "remote Move target is invalid")
  validateInboxDomain codec domain document.inbox
  let profileCreatedAt ← remoteProfileCreatedAt codec document
  let collections ← validatedCollections codec document
  return documentActor codec now document id domain false keys collections profileCreatedAt

/-!
## Accepted documents
-/

section

variable {codec resolver web now} {id : AccountId} {discovered : Discovered}

theorem fetchJson_ok {Document : Type} {get : Network.Url → Except DiscoveryError Document}
    {url : Network.Url}
    {document : Document} (fetched : fetchJson resolver get url = .ok document) :
    url.scheme = "https" ∧ get url = .ok document := by
  unfold fetchJson at fetched
  obtain ⟨address, valid, fetched⟩ := bind_ok fetched
  unfold validateRemoteUrl remoteAddresses at valid
  obtain ⟨addresses, resolved, _⟩ := bind_ok valid
  obtain ⟨_, secure, _⟩ := bind_ok resolved
  have secure := ensure_ok secure
  simp only [Bool.and_eq_true, beq_iff_eq] at secure
  exact ⟨secure.1.1, fetched⟩

theorem discoverRemoteActor_accepts {username domain : String}
    (accepted : discoverRemoteActor codec resolver web now id username domain = .ok discovered) :
    ∃ webfingerUrl webfinger href actorUrl document keys collections profileCreatedAt,
      webFingerUrl codec domain = some webfingerUrl ∧
      fetchWebFinger resolver web webfingerUrl username domain = .ok webfinger ∧
      eqIgnoreAsciiCase webfinger.subject (handleResource username domain) = true ∧
      activitypubActorHref webfinger = some href ∧
      codec.parseUrl href = some actorUrl ∧
      validateActorDocument codec document actorUrl username = .ok () ∧
      discovered =
        documentActor codec now document id domain false keys collections profileCreatedAt := by
  unfold discoverRemoteActor at accepted
  obtain ⟨webfingerUrl, location, accepted⟩ := bind_ok accepted
  obtain ⟨webfinger, answer, accepted⟩ := bind_ok accepted
  obtain ⟨_, subject, accepted⟩ := bind_ok accepted
  obtain ⟨href, link, accepted⟩ := bind_ok accepted
  obtain ⟨actorUrl, parsed, accepted⟩ := bind_ok accepted
  obtain ⟨document, _, accepted⟩ := bind_ok accepted
  obtain ⟨_, valid, accepted⟩ := bind_ok accepted
  obtain ⟨keys, _, accepted⟩ := bind_ok accepted
  obtain ⟨profileCreatedAt, _, accepted⟩ := bind_ok accepted
  obtain ⟨collections, _, accepted⟩ := bind_ok accepted
  cases accepted
  exact ⟨webfingerUrl, webfinger, href, actorUrl, document, keys, collections, profileCreatedAt,
    okOr_ok location, answer, ensure_ok subject, okOr_ok link, okOr_ok parsed, valid, rfl⟩

theorem validateActorDocument_ok {document : RemoteActorDocument} {requestedUrl : Network.Url}
    {username : String} (valid : validateActorDocument codec document requestedUrl username = .ok ()) :
    eqIgnoreAsciiCase document.preferredUsername username = true ∧
      codec.parseUrl document.id = some requestedUrl ∧
      validateInbox codec requestedUrl document.inbox = .ok () ∧
      validateInbox codec requestedUrl (document.sharedInbox.getD document.inbox) = .ok () := by
  unfold validateActorDocument at valid
  obtain ⟨_, name, valid⟩ := bind_ok valid
  obtain ⟨actorId, parsed, valid⟩ := bind_ok valid
  obtain ⟨_, requested, valid⟩ := bind_ok valid
  obtain ⟨_, inbox, shared⟩ := bind_ok valid
  have name := ensure_ok name
  have requested := ensure_ok requested
  simp only [Bool.and_eq_true, beq_iff_eq] at name requested
  rw [← requested.2]
  exact ⟨name.2, okOr_ok parsed, inbox, shared⟩

theorem fetchRemoteActorById_accepts {actors : List RemoteActor} {activitypubId : String}
    (accepted : fetchRemoteActorById codec resolver web now actors id activitypubId =
      .ok discovered) :
    ∃ actorUrl host document keys collections profileCreatedAt,
      codec.parseUrl activitypubId = some actorUrl ∧ actorUrl.hostStr = some host ∧
      actorUrl.scheme = "https" ∧ web.actor actorUrl = .ok document ∧
      document.id = activitypubId ∧
      validateInboxDomain codec (toLowercase host) document.inbox = .ok () ∧
      discovered =
        let cached := findRemoteActorByActivitypubId actors activitypubId
        let handleDomain := (cached.map RemoteActor.domain).getD (toLowercase host)
        documentActor codec now document id handleDomain
          (!(handleUnchanged cached document || verifyRemoteHandle codec resolver web
            document.preferredUsername handleDomain activitypubId))
          keys collections profileCreatedAt := by
  unfold fetchRemoteActorById at accepted
  obtain ⟨actorUrl, parsed, accepted⟩ := bind_ok accepted
  obtain ⟨domain, located, accepted⟩ := bind_ok accepted
  obtain ⟨document, fetched, accepted⟩ := bind_ok accepted
  obtain ⟨_, identified, accepted⟩ := bind_ok accepted
  obtain ⟨keys, _, accepted⟩ := bind_ok accepted
  obtain ⟨profileCreatedAt, _, accepted⟩ := bind_ok accepted
  obtain ⟨collections, _, accepted⟩ := bind_ok accepted
  obtain ⟨_, inbox, accepted⟩ := bind_ok accepted
  cases accepted
  obtain ⟨host, found, rfl⟩ := Option.map_eq_some_iff.mp (okOr_ok located)
  obtain ⟨secure, fetched⟩ := fetchJson_ok fetched
  have identified := ensure_ok identified
  simp only [Bool.and_eq_true, beq_iff_eq] at identified
  exact ⟨actorUrl, host, document, keys, collections, profileCreatedAt, okOr_ok parsed, found,
    secure, fetched, identified.1, inbox, rfl⟩

theorem fetchRemoteMoveTarget_accepts {targetId sourceId : String}
    (accepted : fetchRemoteMoveTarget codec resolver web now id targetId sourceId =
      .ok discovered) :
    ∃ actorUrl host document keys collections profileCreatedAt,
      codec.parseUrl targetId = some actorUrl ∧ actorUrl.hostStr = some host ∧
      actorUrl.scheme = "https" ∧ web.actor actorUrl = .ok document ∧
      document.id = targetId ∧
      validateInboxDomain codec (toLowercase host) document.inbox = .ok () ∧
      discovered = documentActor codec now document id (toLowercase host) false keys collections
        profileCreatedAt := by
  unfold fetchRemoteMoveTarget at accepted
  obtain ⟨actorUrl, parsed, accepted⟩ := bind_ok accepted
  obtain ⟨domain, located, accepted⟩ := bind_ok accepted
  obtain ⟨document, fetched, accepted⟩ := bind_ok accepted
  obtain ⟨keys, _, accepted⟩ := bind_ok accepted
  obtain ⟨_, target, accepted⟩ := bind_ok accepted
  obtain ⟨_, inbox, accepted⟩ := bind_ok accepted
  obtain ⟨profileCreatedAt, _, accepted⟩ := bind_ok accepted
  obtain ⟨collections, _, accepted⟩ := bind_ok accepted
  cases accepted
  obtain ⟨host, found, rfl⟩ := Option.map_eq_some_iff.mp (okOr_ok located)
  obtain ⟨secure, fetched⟩ := fetchJson_ok fetched
  have target := ensure_ok target
  simp only [Bool.and_eq_true, beq_iff_eq] at target
  exact ⟨actorUrl, host, document, keys, collections, profileCreatedAt, okOr_ok parsed, found,
    secure, fetched, target.1.1.2, inbox, rfl⟩

end

/-!
## Runs
-/

structure Surroundings where
  resolver : Resolver
  web : Web
  now : Int

/-- The transactions of discovery. An identifier is drawn for each fetched actor. -/
inductive Call where
  | resolve (around : Surroundings) (id : AccountId) (handle : String)
  | refresh (around : Surroundings) (id : AccountId) (activitypubId : String)
  | moveTarget (around : Surroundings) (id : AccountId) (targetId sourceId : String)
  | store (index : Nat)

structure Server where
  cache : Cache
  fetched : List Discovered
deriving DecidableEq

def Server.empty : Server := ⟨⟨[], []⟩, []⟩

def Server.remember (server : Server) (result : Except DiscoveryError Discovered) :
    Server × Option (Except DiscoveryError RemoteActor) :=
  match result with
  | .ok discovered =>
      ({ server with fetched := server.fetched ++ [discovered] }, some (.ok discovered.actor))
  | .error error => (server, some (.error error))

/-- A store that fails is rolled back. -/
def Server.commit (server : Server) (result : Except DiscoveryError (Cache × RemoteActor)) :
    Server × Option (Except DiscoveryError RemoteActor) :=
  match result with
  | .ok (cache, actor) => ({ server with cache := cache }, some (.ok actor))
  | .error error => (server, some (.error error))

def Server.step (server : Server) : Call → Server × Option (Except DiscoveryError RemoteActor)
  | .resolve around id handle =>
      server.commit
        (resolveRemoteActor codec around.resolver around.web around.now server.cache id handle)
  | .refresh around id activitypubId =>
      server.remember (fetchRemoteActorById codec around.resolver around.web around.now
        server.cache.actors id activitypubId)
  | .moveTarget around id targetId sourceId =>
      server.remember
        (fetchRemoteMoveTarget codec around.resolver around.web around.now id targetId sourceId)
  | .store index =>
      match server.fetched[index]? with
      | some discovered => server.commit (storeRemoteActorOn server.cache discovered)
      | none => (server, none)

/-- Stores do not overlap, although `upsert_remote_actor_with_identity` takes no lock on the
handle. -/
def discovery : Machine Server Call (Option (Except DiscoveryError RemoteActor)) :=
  ⟨Server.step codec⟩

inductive Fetches (codec : Codec) (server : Server) : Call → Discovered → Prop
  | refresh {around : Surroundings} {id : AccountId} {activitypubId : String}
      {discovered : Discovered}
      (accepted : fetchRemoteActorById codec around.resolver around.web around.now
        server.cache.actors id activitypubId = .ok discovered) :
      Fetches codec server (.refresh around id activitypubId) discovered
  | moveTarget {around : Surroundings} {id : AccountId} {targetId sourceId : String}
      {discovered : Discovered}
      (accepted : fetchRemoteMoveTarget codec around.resolver around.web around.now id targetId
        sourceId = .ok discovered) :
      Fetches codec server (.moveTarget around id targetId sourceId) discovered

inductive Provides (codec : Codec) (server : Server) : Call → Discovered → Prop
  | resolve {around : Surroundings} {id : AccountId} {handle username domain : String}
      {discovered : Discovered} (parsed : parseRemoteHandle handle = .ok (username, domain))
      (accepted : discoverRemoteActor codec around.resolver around.web around.now id username
        (toLowercase domain) = .ok discovered) :
      Provides codec server (.resolve around id handle) discovered
  | store {index : Nat} {discovered : Discovered}
      (fetched : server.fetched[index]? = some discovered) :
      Provides codec server (.store index) discovered

theorem Server.step_cases (codec : Codec) (server : Server) (call : Call) :
    (server.step codec call).1 = server ∨
      (∃ discovered, Fetches codec server call discovered ∧
        (server.step codec call).1 =
          { server with fetched := server.fetched ++ [discovered] }) ∨
      ∃ discovered cache actor, Provides codec server call discovered ∧
        storeRemoteActorOn server.cache discovered = .ok (cache, actor) ∧
        (server.step codec call).1 = { server with cache := cache } := by
  cases call with
  | refresh around id activitypubId =>
      cases result : fetchRemoteActorById codec around.resolver around.web around.now
          server.cache.actors id activitypubId with
      | error error => exact .inl (by simp [Server.step, Server.remember, result])
      | ok discovered =>
          exact .inr (.inl ⟨discovered, .refresh result, by
            simp [Server.step, Server.remember, result]⟩)
  | moveTarget around id targetId sourceId =>
      cases result : fetchRemoteMoveTarget codec around.resolver around.web around.now id targetId
          sourceId with
      | error error => exact .inl (by simp [Server.step, Server.remember, result])
      | ok discovered =>
          exact .inr (.inl ⟨discovered, .moveTarget result, by
            simp [Server.step, Server.remember, result]⟩)
  | store index =>
      cases fetched : server.fetched[index]? with
      | none => exact .inl (by simp [Server.step, fetched])
      | some discovered =>
          cases result : storeRemoteActorOn server.cache discovered with
          | error error => exact .inl (by simp [Server.step, Server.commit, fetched, result])
          | ok stored =>
              exact .inr (.inr ⟨discovered, stored.1, stored.2, .store fetched, result, by
                simp [Server.step, Server.commit, fetched, result]⟩)
  | resolve around id handle =>
      cases result : resolveRemoteActor codec around.resolver around.web around.now server.cache id
          handle with
      | error error => exact .inl (by simp [Server.step, Server.commit, result])
      | ok stored =>
          have step : (server.step codec (.resolve around id handle)).1 =
              { server with cache := stored.1 } := by
            simp [Server.step, Server.commit, result]
          unfold resolveRemoteActor at result
          obtain ⟨⟨username, domain⟩, parsed, result⟩ := bind_ok result
          dsimp only at result
          split at result
          · cases result
            exact .inl step
          · obtain ⟨discovered, accepted, result⟩ := bind_ok result
            exact .inr (.inr ⟨discovered, stored.1, stored.2, .resolve parsed accepted, result,
              step⟩)

/-!
## Delivery
-/

structure DeliveryGroup where
  inboxUrl : String
  remoteActorIds : List AccountId
deriving DecidableEq

/-- Group identical activities by their validated remote delivery endpoint. -/
def deliveryGroups (recipients : List RemoteActor) (personalInbox : Bool) : List DeliveryGroup :=
  if personalInbox then
    (recipients.map fun remote => ⟨remote.inboxUrl, [remote.id]⟩).insertionSort fun left right =>
      left.inboxUrl < right.inboxUrl ∨ left.inboxUrl = right.inboxUrl ∧
        (left.remoteActorIds.map AccountId.value) ≤ (right.remoteActorIds.map AccountId.value)
  else
    let inbox (remote : RemoteActor) := remote.sharedInboxUrl.getD remote.inboxUrl
    ((recipients.map inbox).dedup.insertionSort (· ≤ ·)).map fun inboxUrl =>
      ⟨inboxUrl, ((recipients.filter fun remote => inbox remote == inboxUrl).map RemoteActor.id)
        |>.insertionSort fun left right => left.value ≤ right.value⟩

theorem deliveryGroups_sorted (recipients : List RemoteActor) :
    (deliveryGroups recipients true).Pairwise fun left right =>
      left.inboxUrl = right.inboxUrl → ∀ first second, left.remoteActorIds = [first] →
        right.remoteActorIds = [second] → first.value ≤ second.value := by
  simp only [deliveryGroups, if_true]
  refine (@List.pairwise_insertionSort _ _ _ ⟨fun left right => ?total⟩
    ⟨fun first second third => ?trans⟩ _).imp ?apart
  case total =>
    by_cases lower : left.inboxUrl < right.inboxUrl
    · exact .inl (.inl lower)
    by_cases higher : right.inboxUrl < left.inboxUrl
    · exact .inr (.inl higher)
    have same : left.inboxUrl = right.inboxUrl :=
      String.le_antisymm (String.not_lt.mp higher) (String.not_lt.mp lower)
    refine Or.imp (fun ordered => .inr ⟨same, ordered⟩)
      (fun ordered => .inr ⟨same.symm, ordered⟩) ?_
    exact Std.le_total
  case trans =>
    rintro (lower | ⟨same, ordered⟩) (later | ⟨equal, following⟩)
    · exact .inl (String.lt_trans lower later)
    · exact .inl (equal ▸ lower)
    · exact .inl (same ▸ later)
    · exact .inr ⟨same.trans equal, Std.le_trans ordered following⟩
  case apart =>
    rintro left right (lower | ⟨_, ordered⟩) same first second single alone
    · exact absurd (same ▸ lower) (String.lt_irrefl _)
    · rw [single, alone] at ordered
      exact Nat.le_of_not_lt fun lower => Std.not_lt.mpr ordered (List.Lex.rel lower)

end Roosty.Federation.Discovery
