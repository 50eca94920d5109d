import Roosty.Federation.RemoteActor

/-!
# Ownership of handles

The handle of an actor is confirmed when WebFinger on its domain names the actor. Lookups
and the check for conflicts do not read `invalid_handle`, an update that marks a handle
invalid keeps the name, and the target of a Move is stored without asking WebFinger. Where
none of this happens, the handles of the cache are confirmed, valid and distinct.
-/

set_option autoImplicit false

namespace Roosty.Federation.Discovery

open Library Network

/-- WebFinger on the domain names the actor for the handle, up to the case of names. -/
def Surroundings.Confirms (around : Surroundings) (codec : Codec)
    (username domain activitypubId : String) : Prop :=
  ∃ requested url webfinger href actorUrl,
    eqIgnoreAsciiCase username requested = true ∧ webFingerUrl codec domain = some url ∧
      fetchWebFinger around.resolver around.web url requested domain = .ok webfinger ∧
      eqIgnoreAsciiCase webfinger.subject (handleResource requested domain) = true ∧
      activitypubActorHref webfinger = some href ∧ codec.parseUrl href = some actorUrl ∧
      codec.parseUrl activitypubId = some actorUrl

def Call.around? : Call → Option Surroundings
  | .resolve around .. => some around
  | .refresh around .. => some around
  | .moveTarget around .. => some around
  | .store _ => none

def Confirmed (codec : Codec) (calls : List Call) (username domain activitypubId : String) : Prop :=
  ∃ call ∈ calls, ∃ around, call.around? = some around ∧
    around.Confirms codec username domain activitypubId

structure HandlesOwned (codec : Codec) (calls : List Call) (server : Server) : Prop where
  lookup : ∀ username domain actor,
    findRemoteActorByHandle server.cache.actors username domain = some actor →
      actor.invalidHandle = false ∧ Confirmed codec calls username domain actor.activitypubId
  single : ∀ first ∈ server.cache.actors, ∀ second ∈ server.cache.actors,
    first.invalidHandle = false → second.invalidHandle = false →
      first.username = second.username → first.domain = second.domain → first = second
  /-- A confirmed handle is stored as valid when only invalid rows carry it. -/
  restored : ∀ discovered cache actor, discovered.actor.invalidHandle = false →
    storeRemoteActorOn server.cache discovered = .ok (cache, actor) →
      (∀ row ∈ server.cache.actors, row.username = discovered.actor.username →
        row.domain = discovered.actor.domain →
          row.activitypubId ≠ discovered.actor.activitypubId → row.invalidHandle = true) →
        actor.invalidHandle = false

def HandleFree (actors : List RemoteActor) (actor : RemoteActor) : Prop :=
  ∀ row ∈ actors, row.username = actor.username → row.domain = actor.domain →
    row.activitypubId = actor.activitypubId

/-- A refreshed document keeps its handle or has one that WebFinger confirms, and so does
the target of a Move; a stored handle is carried by no other actor. -/
def HandleProven (codec : Codec) (server : Server) : Call → Prop
  | .resolve around id handle => ∀ discovered,
      Provides codec server (.resolve around id handle) discovered →
        HandleFree server.cache.actors discovered.actor
  | .refresh around _ activitypubId => ∀ actorUrl host document,
      codec.parseUrl activitypubId = some actorUrl → actorUrl.hostStr = some host →
        around.web.actor actorUrl = .ok document →
          let cached := findRemoteActorByActivitypubId server.cache.actors activitypubId
          handleUnchanged cached document = true ∨
            verifyRemoteHandle codec around.resolver around.web document.preferredUsername
              ((cached.map RemoteActor.domain).getD (toLowercase host)) activitypubId = true
  | .moveTarget around _ targetId _ => ∀ actorUrl host document,
      codec.parseUrl targetId = some actorUrl → actorUrl.hostStr = some host →
        around.web.actor actorUrl = .ok document →
          around.Confirms codec document.preferredUsername (toLowercase host) targetId
  | .store index => ∀ discovered, server.fetched[index]? = some discovered →
      HandleFree server.cache.actors discovered.actor

/-!
## Confirmations
-/

section

variable {codec : Codec}

private theorem eqIgnoreAsciiCase_refl (text : String) : eqIgnoreAsciiCase text text = true := by
  simp [eqIgnoreAsciiCase]

private theorem verifyRemoteHandle_confirms {around : Surroundings}
    {username domain activitypubId : String} {actorUrl : Network.Url}
    (verified : verifyRemoteHandle codec around.resolver around.web username domain activitypubId =
      true)
    (parsed : codec.parseUrl activitypubId = some actorUrl) :
    around.Confirms codec username domain activitypubId := by
  unfold verifyRemoteHandle at verified
  split at verified
  · cases verified
  · rename_i url located
    split at verified
    · cases verified
    · rename_i webfinger answer
      simp only [Bool.and_eq_true, beq_iff_eq] at verified
      exact ⟨username, url, webfinger, activitypubId, actorUrl, eqIgnoreAsciiCase_refl username,
        located, answer, verified.1, verified.2, parsed, parsed⟩

private theorem discoverRemoteActor_confirms {around : Surroundings} {id : AccountId}
    {username domain : String} {discovered : Discovered}
    (accepted : discoverRemoteActor codec around.resolver around.web around.now id username domain =
      .ok discovered) :
    discovered.actor.invalidHandle = false ∧
      around.Confirms codec discovered.actor.username discovered.actor.domain
        discovered.actor.activitypubId := by
  obtain ⟨url, webfinger, href, actorUrl, document, _, _, _, located, answer, subject, link, parsed,
    valid, rfl⟩ := discoverRemoteActor_accepts accepted
  obtain ⟨name, identity, _⟩ := validateActorDocument_ok valid
  exact ⟨rfl, username, url, webfinger, href, actorUrl, name, located, answer, subject, link, parsed,
    identity⟩

private theorem Confirmed.append {calls : List Call} {username domain activitypubId : String}
    (confirmed : Confirmed codec calls username domain activitypubId) (call : Call) :
    Confirmed codec (calls ++ [call]) username domain activitypubId := by
  obtain ⟨before, member, found⟩ := confirmed
  exact ⟨before, List.mem_append_left _ member, found⟩

private theorem confirmed_last {calls : List Call} {call : Call} {around : Surroundings}
    {username domain activitypubId : String} (asked : call.around? = some around)
    (confirms : around.Confirms codec username domain activitypubId) :
    Confirmed codec (calls ++ [call]) username domain activitypubId :=
  ⟨call, by simp, around, asked, confirms⟩

end

/-!
## Runs
-/

private def Valid (codec : Codec) (calls : List Call) (actor : RemoteActor) : Prop :=
  actor.invalidHandle = false ∧
    Confirmed codec calls actor.username actor.domain actor.activitypubId

private structure Owned (codec : Codec) (calls : List Call) (server : Server) : Prop where
  distinct : (server.cache.actors.map RemoteActor.id).Nodup
  identified : ∀ first ∈ server.cache.actors, ∀ second ∈ server.cache.actors,
    first.activitypubId = second.activitypubId → first = second
  named : ∀ first ∈ server.cache.actors, ∀ second ∈ server.cache.actors,
    first.username = second.username → first.domain = second.domain → first = second
  stored : ∀ actor ∈ server.cache.actors, Valid codec calls actor
  pending : ∀ discovered ∈ server.fetched, Valid codec calls discovered.actor

section

variable {codec : Codec} {calls : List Call} {server : Server} {call : Call}
  {discovered : Discovered}

private theorem Valid.append {actor : RemoteActor} (valid : Valid codec calls actor) (call : Call) :
    Valid codec (calls ++ [call]) actor :=
  ⟨valid.1, valid.2.append call⟩

private theorem Owned.append (owned : Owned codec calls server) (call : Call) :
    Owned codec (calls ++ [call]) server :=
  ⟨owned.distinct, owned.identified, owned.named,
    fun actor member => (owned.stored actor member).append call,
    fun discovered member => (owned.pending discovered member).append call⟩

private theorem Owned.fetches (owned : Owned codec calls server)
    (proven : HandleProven codec server call) (fetches : Fetches codec server call discovered) :
    Valid codec (calls ++ [call]) discovered.actor := by
  cases fetches with
  | moveTarget accepted =>
      obtain ⟨actorUrl, host, document, _, _, _, parsed, located, _, served, identity, _, rfl⟩ :=
        fetchRemoteMoveTarget_accepts accepted
      refine ⟨rfl, confirmed_last rfl ?_⟩
      have confirms := proven actorUrl host document parsed located served
      rwa [← identity] at confirms
  | @refresh around id activitypubId _ accepted =>
      obtain ⟨actorUrl, host, document, _, _, _, parsed, located, _, served, identity, _, rfl⟩ :=
        fetchRemoteActorById_accepts accepted
      have checked := proven actorUrl host document parsed located served
      have accepts := Bool.or_eq_true_iff.mpr checked
      dsimp only [documentActor, Valid]
      rw [accepts, identity]
      refine ⟨rfl, ?_⟩
      rcases checked with unchanged | verified
      · -- the handle is that of the cached row, which is confirmed already
        cases found : findRemoteActorByActivitypubId server.cache.actors activitypubId with
        | none =>
            rw [found] at unchanged
            cases unchanged
        | some cached =>
            rw [found] at unchanged
            have same : cached.username = document.preferredUsername := by
              simp only [handleUnchanged, Option.any_some, Bool.and_eq_true, beq_iff_eq] at unchanged
              exact unchanged.2
            have known : cached.activitypubId = activitypubId := by
              simpa using List.find?_some found
            have valid := owned.stored cached (List.mem_of_find?_eq_some found)
            rw [← same, ← known]
            exact valid.2.append _
      · exact confirmed_last rfl (verifyRemoteHandle_confirms verified parsed)

private theorem Owned.provides (owned : Owned codec calls server)
    (proven : HandleProven codec server call) (provides : Provides codec server call discovered) :
    Valid codec (calls ++ [call]) discovered.actor ∧
      HandleFree server.cache.actors discovered.actor := by
  cases provides with
  | resolve parsed accepted =>
      obtain ⟨valid, confirms⟩ := discoverRemoteActor_confirms accepted
      exact ⟨⟨valid, confirmed_last rfl confirms⟩, proven discovered (.resolve parsed accepted)⟩
  | store fetched =>
      have valid := owned.pending discovered (List.mem_of_getElem? fetched)
      exact ⟨valid.append _, proven discovered fetched⟩

private theorem upsert_valid {actors rows : List RemoteActor} {actor row : RemoteActor}
    (identified : ∀ first ∈ actors, ∀ second ∈ actors,
      first.activitypubId = second.activitypubId → first = second)
    (valid : actor.invalidHandle = false) (free : HandleFree actors actor)
    (success : upsertRemoteActorWithIdentity actors actor true = .ok (rows, row)) :
    row.username = actor.username ∧ row.domain = actor.domain ∧ row.invalidHandle = false := by
  rcases upsertRemoteActorWithIdentity_cases success with
    ⟨existing, member, same, chosen, _⟩ | ⟨new, _, chosen, _⟩
  · have untaken : handleTaken actors actor (some existing.id) = false := by
      refine List.any_eq_false.mpr ?_
      intro other carrier taken
      simp only [Bool.and_eq_true, beq_iff_eq, bne_iff_ne, ne_eq, Option.some.injEq] at taken
      have own := identified other carrier existing member
        ((free other carrier taken.1.1 taken.1.2).trans same.symm)
      exact taken.2 (by rw [own])
    rw [chosen]
    simp [refreshedActor, valid, untaken]
  · have untaken : handleTaken actors actor none = false := by
      refine List.any_eq_false.mpr ?_
      intro other carrier taken
      simp only [Bool.and_eq_true, beq_iff_eq] at taken
      exact new other carrier (free other carrier taken.1.1 taken.1.2)
    rw [chosen]
    simp [insertedActor, valid, untaken]

private theorem Owned.stores {cache : Cache} {actor : RemoteActor}
    (owned : Owned codec calls server) (valid : Valid codec (calls ++ [call]) discovered.actor)
    (free : HandleFree server.cache.actors discovered.actor)
    (stores : storeRemoteActorOn server.cache discovered = .ok (cache, actor)) :
    Owned codec (calls ++ [call]) { server with cache := cache } := by
  have upserts := storeRemoteActorOn_upserts stores
  obtain ⟨username, domain, validHandle⟩ := upsert_valid owned.identified valid.1 free upserts
  obtain ⟨distinct, identity, _, _, rows⟩ := upsertRemoteActorWithIdentity_rows upserts owned.distinct
  -- an old row with the identity of the stored one was replaced by it
  have apart : ∀ row ∈ server.cache.actors, row.id ≠ actor.id →
      row.activitypubId ≠ actor.activitypubId := by
    intro row old different same
    rw [identity] at same
    rcases upsertRemoteActorWithIdentity_cases upserts with
      ⟨existing, member, known, chosen, _⟩ | ⟨new, _⟩
    · have own := owned.identified row old existing member (same.trans known.symm)
      have kept := (refreshedActor_endpoints server.cache.actors discovered.actor existing true).1
      rw [← chosen, ← own] at kept
      exact different kept.symm
    · exact new row old same
  have unnamed : ∀ row ∈ server.cache.actors, row.id ≠ actor.id →
      row.username = actor.username → row.domain = actor.domain → False := by
    intro row old different sameName sameDomain
    refine apart row old different ?_
    rw [identity]
    exact free row old (sameName.trans username) (sameDomain.trans domain)
  refine ⟨distinct, ?_, ?_, ?_, fun other member => (owned.pending other member).append call⟩
  · intro first left second right same
    rcases rows first left with rfl | ⟨oldLeft, differentLeft⟩
    · rcases rows second right with rfl | ⟨oldRight, differentRight⟩
      · rfl
      · exact absurd same.symm (apart second oldRight differentRight)
    · rcases rows second right with rfl | ⟨oldRight, _⟩
      · exact absurd same (apart first oldLeft differentLeft)
      · exact owned.identified first oldLeft second oldRight same
  · intro first left second right sameName sameDomain
    rcases rows first left with rfl | ⟨oldLeft, differentLeft⟩
    · rcases rows second right with rfl | ⟨oldRight, differentRight⟩
      · rfl
      · exact (unnamed second oldRight differentRight sameName.symm sameDomain.symm).elim
    · rcases rows second right with rfl | ⟨oldRight, _⟩
      · exact (unnamed first oldLeft differentLeft sameName sameDomain).elim
      · exact owned.named first oldLeft second oldRight sameName sameDomain
  · intro other member
    rcases rows other member with rfl | ⟨old, _⟩
    · refine ⟨validHandle, ?_⟩
      rw [username, domain, identity]
      exact valid.2
    · exact (owned.stored other old).append call

private theorem Owned.step (owned : Owned codec calls server)
    (proven : HandleProven codec server call) :
    Owned codec (calls ++ [call]) (server.step codec call).1 := by
  rcases server.step_cases codec call with
    same | ⟨discovered, fetches, next⟩ | ⟨discovered, cache, actor, provides, stores, next⟩
  · rw [same]
    exact owned.append call
  · rw [next]
    have kept := owned.append call
    refine ⟨kept.distinct, kept.identified, kept.named, kept.stored, ?_⟩
    intro other member
    rcases List.mem_append.mp member with old | added
    · exact kept.pending other old
    · rw [List.mem_singleton.mp added]
      exact owned.fetches proven fetches
  · rw [next]
    obtain ⟨valid, free⟩ := owned.provides proven provides
    exact owned.stores valid free stores

private theorem Owned.handlesOwned (owned : Owned codec calls server) :
    HandlesOwned codec calls server where
  lookup := by
    intro username domain actor found
    have carried := List.find?_some found
    simp only [Bool.and_eq_true, beq_iff_eq] at carried
    have valid := owned.stored actor (List.mem_of_find?_eq_some found)
    rw [← carried.1, ← carried.2]
    exact valid
  single := by
    intro first left second right _ _ sameName sameDomain
    exact owned.named first left second right sameName sameDomain
  restored := by
    intro discovered cache actor valid stores invalid
    have free : HandleFree server.cache.actors discovered.actor := by
      intro row member sameName sameDomain
      by_contra other
      have marked := invalid row member sameName sameDomain other
      rw [(owned.stored row member).1] at marked
      cases marked
    exact (upsert_valid owned.identified valid free (storeRemoteActorOn_upserts stores)).2.2

end

/-- In a run that confirms every handle it stores, and stores none that another actor
carries, the handles are owned. -/
theorem handles_owned (codec : Codec) (calls : List Call)
    (proven : (discovery codec).Guarded (HandleProven codec) .empty calls) :
    HandlesOwned codec calls ((discovery codec).run .empty calls) := by
  refine Owned.handlesOwned ?_
  induction calls using List.reverseRecOn with
  | nil =>
      exact ⟨List.nodup_nil, by simp [Server.empty], by simp [Server.empty], by simp [Server.empty],
        by simp [Server.empty]⟩
  | append_singleton calls call ih =>
      rw [Machine.run_snoc]
      exact (ih proven.of_append).step (proven calls call [] rfl)

namespace HandleSample

def urls : List (String × Network.Url) :=
  ["/one", "/two", "/inbox", "/.well-known/webfinger"].map fun path =>
    ("https://a.example" ++ path,
      ⟨"https", "", none, some (.domain "a.example"), some 443, path⟩)

def codec : Codec where
  parseUrl text := (urls.find? (·.1 == text)).map Prod.snd
  urlText _ := ""
  parseRfc3339 _ := none
  rsaFromPem _ := some [1]
  rsaIsPkcs1 _ := true
  rsaToPem _ := "pem"
  multibase _ := none

def resolver : Resolver where
  federationDomainIsAllowed _ := true
  federationDomainIsSuspended _ := false
  parseIp _ := none
  lookupHost _ port := some [⟨.v4 ⟨1, 1, 1, 1⟩, port⟩]

def document (id username : String) : RemoteActorDocument :=
  { id, type := .person, preferredUsername := username, alsoKnownAs := ["https://b.example/old"],
    published := none, inbox := "https://a.example/inbox", followers := none, featured := none,
    featuredTags := none, sharedInbox := none,
    publicKey := some (.legacy ⟨id ++ "#key", id, "pem"⟩), assertionMethod := [] }

/-- One document, and a WebFinger that links every handle to an actor, if to any. -/
def around (served : RemoteActorDocument) (link : Option String) (now : Int) : Surroundings where
  resolver := resolver
  web :=
    { actor := fun _ => .ok served
      key := fun _ => .error (invalid "not found")
      webFinger := fun _ resource => match link with
        | some href => .ok ⟨resource, [⟨"self", none, some href⟩]⟩
        | none => .error (invalid "not found") }
  now

def one : String := "https://a.example/one"

def two : String := "https://a.example/two"

def kept : List Call :=
  [.resolve (around (document one "alice") (some one) 0) ⟨1⟩ "alice@a.example",
    .refresh (around (document one "alice") none 0) ⟨2⟩ one, .store 0]

/-- The target of a Move claims a handle that WebFinger does not know. -/
def moved : List Call :=
  [.moveTarget (around (document one "alice") none 0) ⟨1⟩ one "https://b.example/old", .store 0]

/-- Alice is resolved, and then calls herself bob, without WebFinger. -/
def renamed : List Call :=
  [.resolve (around (document one "alice") (some one) 0) ⟨1⟩ "alice@a.example",
    .refresh (around (document one "bob") none 0) ⟨2⟩ one, .store 0]

def successor : Discovered :=
  documentActor codec (24 * 3600 * 1000000) (document two "alice") ⟨3⟩ "a.example" false
    [⟨two ++ "#key", .rsaPkcs1Sha256, [1], none⟩] ⟨none, none, none⟩ none

def successorCall : Call :=
  .resolve (around (document two "alice") (some two) (24 * 3600 * 1000000)) ⟨3⟩ "alice@a.example"

end HandleSample

open HandleSample in
theorem handles_owned_kept : HandlesOwned codec kept ((discovery codec).run .empty kept) := by
  refine handles_owned codec kept ((discovery codec).guarded_of_get ?_)
  intro ⟨index, bound⟩
  match index, bound with
  | 0, _ =>
      intro discovered _ row member
      cases member
  | 1, _ =>
      intro actorUrl host document parsed located served
      cases served
      exact .inl rfl
  | 2, _ =>
      intro discovered fetched row member _ _
      cases fetched
      rw [List.mem_singleton.mp member]
      rfl

open HandleSample in
/-- The Move leaves a handle that was never confirmed; the refresh leaves an invalid
actor under its old handle, and with it the actor that WebFinger now names is stored as
invalid. -/
theorem handles_not_owned :
    ¬HandlesOwned codec moved ((discovery codec).run .empty moved) ∧
      ((findRemoteActorByHandle ((discovery codec).run .empty renamed).cache.actors "alice"
        "a.example").map RemoteActor.invalidHandle = some true) ∧
      ¬HandlesOwned codec renamed ((discovery codec).run .empty renamed) ∧
      Provides codec ((discovery codec).run .empty renamed) successorCall successor ∧
      ∃ cache actor, storeRemoteActorOn ((discovery codec).run .empty renamed).cache successor =
        .ok (cache, actor) ∧ actor.invalidHandle = true := by
  have parsed : parseRemoteHandle "alice@a.example" = .ok ("alice", "a.example") := rfl
  refine ⟨?_, by decide, ?_, .resolve parsed rfl, _, _, rfl, rfl⟩
  · intro owned
    obtain ⟨_, call, member, around, asked, confirms⟩ :=
      owned.lookup "alice" "a.example" _ rfl
    rcases List.mem_cons.mp member with rfl | member
    · cases asked
      obtain ⟨requested, url, webfinger, _, _, _, located, answer, _⟩ := confirms
      cases located
      cases answer
    · rw [List.mem_singleton.mp member] at asked
      cases asked
  · intro owned
    exact absurd (owned.lookup "alice" "a.example" _ rfl).1 (by decide)

end Roosty.Federation.Discovery
