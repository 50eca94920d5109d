import Roosty.Federation.RemoteActor

/-!
# Delivery endpoints

The resolution of a handle checks both inboxes of a document against the origin of its
actor. The paths that start from an identifier check the host of the inbox only: not its
port, and nothing of the shared inbox.
-/

set_option autoImplicit false

namespace Roosty.Federation.Discovery

open Library Network

def OnOrigin (codec : Codec) (activitypubId endpoint : String) : Prop :=
  ∃ actorUrl url, codec.parseUrl activitypubId = some actorUrl ∧
    codec.parseUrl endpoint = some url ∧ url.scheme = "https" ∧ url.sameOrigin actorUrl = true

/-- The inbox and the shared inbox are on the origin of the actor. -/
structure OwnsEndpoints (codec : Codec) (actor : RemoteActor) : Prop where
  inbox : OnOrigin codec actor.activitypubId actor.inboxUrl
  shared : ∀ endpoint, actor.sharedInboxUrl = some endpoint →
    OnOrigin codec actor.activitypubId endpoint

/-- The checks that the paths from an identifier leave out, for the document at a URL. -/
structure DeclaresEndpoints (codec : Codec) (actorUrl : Network.Url)
    (document : RemoteActorDocument) :
    Prop where
  port : ∀ url, codec.parseUrl document.inbox = some url → url.port = actorUrl.port
  shared : ∀ endpoint, document.sharedInbox = some endpoint →
    ∃ url, codec.parseUrl endpoint = some url ∧ url.scheme = "https" ∧
      url.sameOrigin actorUrl = true

/-- The URL parser lowers the case of hosts, and recognises addresses. -/
def NormalHosts (codec : Codec) : Prop :=
  ∀ first second left right, codec.parseUrl first = some left → codec.parseUrl second = some right →
    left.scheme = "https" → right.scheme = "https" →
      ∀ host other, left.hostStr = some host → right.hostStr = some other →
        eqIgnoreAsciiCase host other = true → left.host = right.host

def Declared (codec : Codec) (_ : Server) : Call → Prop
  | .refresh around _ activitypubId => ∀ actorUrl document,
      codec.parseUrl activitypubId = some actorUrl → around.web.actor actorUrl = .ok document →
        DeclaresEndpoints codec actorUrl document
  | .moveTarget around _ targetId _ => ∀ actorUrl document,
      codec.parseUrl targetId = some actorUrl → around.web.actor actorUrl = .ok document →
        DeclaresEndpoints codec actorUrl document
  | .resolve .. => True
  | .store _ => True

/-!
## One document
-/

section

variable {codec : Codec}

private theorem validateInbox_onOrigin {activitypubId target : String} {actorUrl : Network.Url}
    (parsed : codec.parseUrl activitypubId = some actorUrl)
    (valid : validateInbox codec actorUrl target = .ok ()) :
    OnOrigin codec activitypubId target := by
  unfold validateInbox at valid
  obtain ⟨url, found, valid⟩ := bind_ok valid
  have valid := ensure_ok valid
  simp only [Bool.and_eq_true, beq_iff_eq] at valid
  exact ⟨actorUrl, url, parsed, okOr_ok found, valid⟩

private theorem discover_owns {resolver : Resolver} {web : Web} {now : Int} {id : AccountId}
    {username domain : String} {discovered : Discovered}
    (accepted : discoverRemoteActor codec resolver web now id username domain = .ok discovered) :
    OwnsEndpoints codec discovered.actor := by
  obtain ⟨_, _, _, actorUrl, document, keys, collections, created, _, _, _, _, _, valid, rfl⟩ :=
    discoverRemoteActor_accepts accepted
  obtain ⟨_, parsed, inbox, shared⟩ := validateActorDocument_ok valid
  refine ⟨validateInbox_onOrigin parsed inbox, ?_⟩
  intro endpoint declared
  have same : document.sharedInbox = some endpoint := declared
  rw [same, Option.getD_some] at shared
  exact validateInbox_onOrigin parsed shared

private theorem owns_iff_declares (normal : NormalHosts codec) {actor : RemoteActor}
    {document : RemoteActorDocument} {actorUrl : Network.Url} {host : String}
    (parsed : codec.parseUrl document.id = some actorUrl) (located : actorUrl.hostStr = some host)
    (secure : actorUrl.scheme = "https")
    (checked : validateInboxDomain codec (toLowercase host) document.inbox = .ok ())
    (identity : actor.activitypubId = document.id) (inbox : actor.inboxUrl = document.inbox)
    (shared : actor.sharedInboxUrl = document.sharedInbox) :
    OwnsEndpoints codec actor ↔ DeclaresEndpoints codec actorUrl document := by
  have sharedInside : ∀ endpoint, OnOrigin codec actor.activitypubId endpoint ↔
      ∃ url, codec.parseUrl endpoint = some url ∧ url.scheme = "https" ∧
        url.sameOrigin actorUrl = true := by
    intro endpoint
    rw [identity]
    constructor
    · intro ⟨other, url, same, found, inside⟩
      rw [parsed] at same
      cases same
      exact ⟨url, found, inside⟩
    · intro ⟨url, found, inside⟩
      exact ⟨actorUrl, url, parsed, found, inside⟩
  unfold validateInboxDomain at checked
  obtain ⟨url, found, checked⟩ := bind_ok checked
  have found := okOr_ok found
  have checked := ensure_ok checked
  simp only [Bool.and_eq_true, beq_iff_eq, Option.any_eq_true] at checked
  obtain ⟨https, other, hosted, similar⟩ := checked
  have sameHost : url.host = actorUrl.host := by
    refine normal _ _ url actorUrl found parsed https secure other host hosted located ?_
    simpa [eqIgnoreAsciiCase, toLowercase, Text.toAsciiLowercase_idem] using similar
  have inboxInside : OnOrigin codec actor.activitypubId actor.inboxUrl ↔
      url.port = actorUrl.port := by
    rw [sharedInside, inbox, found]
    simp [https, Network.Url.sameOrigin, secure, sameHost]
  constructor
  · intro owns
    refine ⟨?_, ?_⟩
    · intro candidate same
      rw [found] at same
      cases same
      exact inboxInside.mp owns.inbox
    · intro endpoint declared
      exact (sharedInside endpoint).mp (owns.shared endpoint (shared.trans declared))
  · intro declares
    refine ⟨inboxInside.mpr (declares.port url found), ?_⟩
    intro endpoint declared
    exact (sharedInside endpoint).mpr (declares.shared endpoint (shared.symm.trans declared))

private theorem refresh_owns_iff (normal : NormalHosts codec) {resolver : Resolver} {web : Web}
    {now : Int} {actors : List RemoteActor} {id : AccountId} {activitypubId : String}
    {discovered : Discovered} {actorUrl : Network.Url} {document : RemoteActorDocument}
    (accepted : fetchRemoteActorById codec resolver web now actors id activitypubId =
      .ok discovered)
    (parsed : codec.parseUrl activitypubId = some actorUrl)
    (served : web.actor actorUrl = .ok document) :
    OwnsEndpoints codec discovered.actor ↔ DeclaresEndpoints codec actorUrl document := by
  obtain ⟨_, host, _, _, _, _, found, located, secure, answer, identity, inbox, rfl⟩ :=
    fetchRemoteActorById_accepts accepted
  rw [parsed] at found
  cases found
  rw [served] at answer
  cases answer
  rw [← identity] at parsed
  exact owns_iff_declares normal parsed located secure inbox rfl rfl rfl

private theorem moveTarget_owns_iff (normal : NormalHosts codec) {resolver : Resolver} {web : Web}
    {now : Int} {id : AccountId} {targetId sourceId : String} {discovered : Discovered}
    {actorUrl : Network.Url} {document : RemoteActorDocument}
    (accepted : fetchRemoteMoveTarget codec resolver web now id targetId sourceId = .ok discovered)
    (parsed : codec.parseUrl targetId = some actorUrl)
    (served : web.actor actorUrl = .ok document) :
    OwnsEndpoints codec discovered.actor ↔ DeclaresEndpoints codec actorUrl document := by
  obtain ⟨_, host, _, _, _, _, found, located, secure, answer, identity, inbox, rfl⟩ :=
    fetchRemoteMoveTarget_accepts accepted
  rw [parsed] at found
  cases found
  rw [served] at answer
  cases answer
  rw [← identity] at parsed
  exact owns_iff_declares normal parsed located secure inbox rfl rfl rfl

end

/-!
## Runs
-/

/-- Distinct actors, each with endpoints of its own, stored or about to be. -/
private structure Trusted (codec : Codec) (server : Server) : Prop where
  distinct : (server.cache.actors.map RemoteActor.id).Nodup
  stored : ∀ actor ∈ server.cache.actors, OwnsEndpoints codec actor
  pending : ∀ discovered ∈ server.fetched, OwnsEndpoints codec discovered.actor

private theorem OwnsEndpoints.of_same {codec : Codec} {actor row : RemoteActor}
    (owns : OwnsEndpoints codec actor) (identity : row.activitypubId = actor.activitypubId)
    (inbox : row.inboxUrl = actor.inboxUrl) (shared : row.sharedInboxUrl = actor.sharedInboxUrl) :
    OwnsEndpoints codec row := by
  refine ⟨?_, ?_⟩
  · rw [identity, inbox]
    exact owns.inbox
  · intro endpoint declared
    rw [identity]
    exact owns.shared endpoint (shared.symm.trans declared)

private theorem Fetches.trusted {codec : Codec} (normal : NormalHosts codec) {server : Server}
    {call : Call} {discovered : Discovered} (declared : Declared codec server call)
    (fetches : Fetches codec server call discovered) : OwnsEndpoints codec discovered.actor := by
  cases fetches with
  | refresh accepted =>
      obtain ⟨actorUrl, _, document, _, _, _, parsed, _, _, served, _⟩ :=
        fetchRemoteActorById_accepts accepted
      exact (refresh_owns_iff normal accepted parsed served).mpr
        (declared actorUrl document parsed served)
  | moveTarget accepted =>
      obtain ⟨actorUrl, _, document, _, _, _, parsed, _, _, served, _⟩ :=
        fetchRemoteMoveTarget_accepts accepted
      exact (moveTarget_owns_iff normal accepted parsed served).mpr
        (declared actorUrl document parsed served)

private theorem Trusted.provides {codec : Codec} {server : Server} {call : Call}
    {discovered : Discovered} (trusted : Trusted codec server)
    (provides : Provides codec server call discovered) :
    OwnsEndpoints codec discovered.actor := by
  cases provides with
  | resolve _ accepted => exact discover_owns accepted
  | store fetched => exact trusted.pending discovered (List.mem_of_getElem? fetched)

private theorem Trusted.step {codec : Codec} (normal : NormalHosts codec) {server : Server}
    {call : Call} (declared : Declared codec server call) (trusted : Trusted codec server) :
    Trusted codec (server.step codec call).1 := by
  rcases server.step_cases codec call with
    same | ⟨discovered, fetches, next⟩ | ⟨discovered, cache, actor, provides, stores, next⟩
  · rwa [same]
  · rw [next]
    refine ⟨trusted.distinct, trusted.stored, ?_⟩
    intro other member
    rcases List.mem_append.mp member with old | added
    · exact trusted.pending other old
    · rw [List.mem_singleton.mp added]
      exact fetches.trusted normal declared
  · rw [next]
    obtain ⟨distinct, identity, inbox, shared, rows⟩ :=
      upsertRemoteActorWithIdentity_rows (storeRemoteActorOn_upserts stores) trusted.distinct
    refine ⟨distinct, ?_, trusted.pending⟩
    intro other member
    rcases rows other member with rfl | ⟨old, _⟩
    · exact (trusted.provides provides).of_same identity inbox shared
    · exact trusted.stored other old

private theorem deliveryGroups_endpoint {recipients : List RemoteActor} {personalInbox : Bool}
    {group : DeliveryGroup} {id : AccountId} (member : group ∈ deliveryGroups recipients personalInbox)
    (addressed : id ∈ group.remoteActorIds) :
    ∃ remote ∈ recipients, remote.id = id ∧
      (group.inboxUrl = remote.inboxUrl ∨ remote.sharedInboxUrl = some group.inboxUrl) := by
  unfold deliveryGroups at member
  split at member
  · obtain ⟨remote, recipient, rfl⟩ :=
      List.mem_map.mp ((List.mem_insertionSort _).mp member)
    exact ⟨remote, recipient, (List.mem_singleton.mp addressed).symm, .inl rfl⟩
  · obtain ⟨inboxUrl, _, rfl⟩ := List.mem_map.mp member
    obtain ⟨remote, chosen, same⟩ :=
      List.mem_map.mp ((List.mem_insertionSort _).mp addressed)
    obtain ⟨recipient, inbox⟩ := List.mem_filter.mp chosen
    refine ⟨remote, recipient, same, ?_⟩
    have inbox : remote.sharedInboxUrl.getD remote.inboxUrl = inboxUrl := by simpa using inbox
    cases shared : remote.sharedInboxUrl with
    | none =>
        rw [shared] at inbox
        exact .inl inbox.symm
    | some endpoint =>
        rw [shared] at inbox
        exact .inr (congrArg some inbox)

/-- A resolved handle has endpoints of its own; a document fetched by identifier has them
exactly when it declares them on the port of the actor and shares no other origin's
inbox. Where every fetched document does, deliveries stay with their recipients. -/
theorem endpoints_owned_iff (codec : Codec) (normal : NormalHosts codec) :
    (∀ (resolver : Resolver) (web : Web) (now : Int) (id : AccountId) (username domain : String)
      (discovered : Discovered),
      discoverRemoteActor codec resolver web now id username domain = .ok discovered →
        OwnsEndpoints codec discovered.actor) ∧
    (∀ (resolver : Resolver) (web : Web) (now : Int) (actors : List RemoteActor) (id : AccountId)
      (activitypubId : String) (discovered : Discovered) (actorUrl : Network.Url)
      (document : RemoteActorDocument),
      fetchRemoteActorById codec resolver web now actors id activitypubId = .ok discovered →
        codec.parseUrl activitypubId = some actorUrl → web.actor actorUrl = .ok document →
          (OwnsEndpoints codec discovered.actor ↔ DeclaresEndpoints codec actorUrl document)) ∧
    (∀ (resolver : Resolver) (web : Web) (now : Int) (id : AccountId) (targetId sourceId : String)
      (discovered : Discovered) (actorUrl : Network.Url) (document : RemoteActorDocument),
      fetchRemoteMoveTarget codec resolver web now id targetId sourceId = .ok discovered →
        codec.parseUrl targetId = some actorUrl → web.actor actorUrl = .ok document →
          (OwnsEndpoints codec discovered.actor ↔ DeclaresEndpoints codec actorUrl document)) ∧
    ∀ calls, (discovery codec).Guarded (Declared codec) .empty calls →
      let actors := ((discovery codec).run .empty calls).cache.actors
      (∀ actor ∈ actors, OwnsEndpoints codec actor) ∧
        ∀ recipients ⊆ actors, ∀ personalInbox, ∀ group ∈ deliveryGroups recipients personalInbox,
          ∀ actor ∈ actors, actor.id ∈ group.remoteActorIds →
            OnOrigin codec actor.activitypubId group.inboxUrl := by
  refine ⟨?_, ?_, ?_, ?_⟩
  · intro resolver web now id username domain discovered accepted
    exact discover_owns accepted
  · intro resolver web now actors id activitypubId discovered actorUrl document accepted
    exact refresh_owns_iff normal accepted
  · intro resolver web now id targetId sourceId discovered actorUrl document accepted
    exact moveTarget_owns_iff normal accepted
  · intro calls guarded
    have start : Trusted codec .empty := ⟨List.nodup_nil, by simp [Server.empty],
      by simp [Server.empty]⟩
    have trusted := (discovery codec).guarded_invariant (Trusted codec)
      (fun _ _ declared trusted => trusted.step normal declared) start guarded
    refine ⟨trusted.stored, ?_⟩
    intro recipients known personalInbox group member actor stored addressed
    obtain ⟨remote, recipient, same, endpoint⟩ := deliveryGroups_endpoint member addressed
    have owner : remote = actor :=
      List.inj_on_of_nodup_map trusted.distinct (known recipient) stored same
    rw [owner] at endpoint
    have owns := trusted.stored actor stored
    rcases endpoint with inbox | shared
    · rw [inbox]
      exact owns.inbox
    · exact owns.shared _ shared

namespace EndpointSample

def url (host : String) (port : Nat) (rest : String) : Network.Url :=
  ⟨"https", "", none, some (.domain host), some port, rest⟩

def urls : List (String × Network.Url) :=
  [("https://a.example/actor", url "a.example" 443 "/actor"),
    ("https://a.example/inbox", url "a.example" 443 "/inbox"),
    ("https://a.example:8443/inbox", url "a.example" 8443 "/inbox"),
    ("https://b.example/inbox", url "b.example" 443 "/inbox")]

def codec : Codec where
  parseUrl text := (urls.find? (·.1 == text)).map Prod.snd
  urlText _ := ""
  parseRfc3339 _ := none
  rsaFromPem _ := some [1]
  rsaIsPkcs1 _ := true
  rsaToPem _ := "pem"
  multibase _ := none

def resolver : Resolver where
  federationDomainIsAllowed _ := true
  federationDomainIsSuspended _ := false
  parseIp _ := none
  lookupHost _ port := some [⟨.v4 ⟨1, 1, 1, 1⟩, port⟩]

def document (inbox : String) (sharedInbox : Option String) : RemoteActorDocument :=
  { id := "https://a.example/actor", type := .person, preferredUsername := "alice",
    alsoKnownAs := [], published := none, inbox, followers := none, featured := none,
    featuredTags := none, sharedInbox,
    publicKey := some (.legacy ⟨"https://a.example/actor#key", "https://a.example/actor", "pem"⟩),
    assertionMethod := [] }

def around (served : RemoteActorDocument) : Surroundings where
  resolver := resolver
  web :=
    { actor := fun _ => .ok served
      key := fun _ => .error (invalid "not found")
      webFinger := fun _ _ => .error (invalid "not found") }
  now := 0

def calls (served : RemoteActorDocument) : List Call :=
  [.refresh (around served) ⟨1⟩ "https://a.example/actor", .store 0]

def storedActor (served : RemoteActorDocument) : RemoteActor :=
  { id := ⟨1⟩, activitypubId := "https://a.example/actor", username := "invalid-" ++ Text.uuidText 1,
    domain := "a.example", invalidHandle := true, actorType := .person, inboxUrl := served.inbox,
    sharedInboxUrl := served.sharedInbox, followersUrl := none, featuredUrl := none,
    featuredTagsUrl := none, publicKeyId := "https://a.example/actor#key", publicKeyPem := "pem",
    expiresAt := 86400000000, profileCreatedAt := none }

def outside : RemoteActorDocument :=
  document "https://a.example:8443/inbox" (some "https://b.example/inbox")

theorem normalHosts : NormalHosts codec := by
  have known : ∀ text url, codec.parseUrl text = some url → url ∈ urls.map Prod.snd := by
    intro text url parsed
    obtain ⟨entry, found, rfl⟩ := Option.map_eq_some_iff.mp parsed
    exact List.mem_map_of_mem (List.mem_of_find?_eq_some found)
  have checked : ∀ left ∈ urls.map Prod.snd, ∀ right ∈ urls.map Prod.snd,
      eqIgnoreAsciiCase (left.hostStr.getD "") (right.hostStr.getD "") = true →
        left.host = right.host := by
    decide
  intro first second left right parsed other _ _ host name hosted named similar
  refine checked left (known first left parsed) right (known second right other) ?_
  rw [hosted, named]
  exact similar

end EndpointSample

open EndpointSample in
theorem endpoints_owned_inside :
    OwnsEndpoints codec (storedActor (document "https://a.example/inbox" none)) := by
  refine ((endpoints_owned_iff codec normalHosts).2.2.2
    (calls (document "https://a.example/inbox" none)) ?_).1 _ (by decide)
  refine (discovery codec).guarded_of_get ?_
  intro ⟨index, bound⟩
  match index, bound with
  | 0, _ =>
      intro actorUrl served parsed answer
      cases answer
      cases parsed
      refine ⟨?_, by simp [document]⟩
      intro url found
      cases found
      rfl
  | 1, _ => trivial

open EndpointSample in
/-- A document with its inbox on another port and its shared inbox on another host is
fetched by identifier and stored, and activities for its actor go to that host. -/
theorem endpoints_not_owned :
    ((discovery codec).run .empty (calls outside)).cache.actors = [storedActor outside] ∧
      ¬OwnsEndpoints codec (storedActor outside) ∧
      deliveryGroups [storedActor outside] false = [⟨"https://b.example/inbox", [⟨1⟩]⟩] ∧
      ¬OnOrigin codec (storedActor outside).activitypubId "https://a.example:8443/inbox" ∧
      ¬OnOrigin codec (storedActor outside).activitypubId "https://b.example/inbox" := by
  have foreign : ∀ endpoint, endpoint = "https://a.example:8443/inbox" ∨
      endpoint = "https://b.example/inbox" →
        ¬OnOrigin codec (storedActor outside).activitypubId endpoint := by
    intro endpoint chosen ⟨actorUrl, url, parsed, found, _, same⟩
    cases parsed
    rcases chosen with rfl | rfl
    · cases found
      exact absurd same (by decide)
    · cases found
      exact absurd same (by decide)
  refine ⟨by decide, fun owns => ?_, by decide, foreign _ (.inl rfl), foreign _ (.inr rfl)⟩
  exact foreign _ (.inl rfl) owns.inbox

end Roosty.Federation.Discovery
