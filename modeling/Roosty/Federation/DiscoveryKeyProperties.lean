import Roosty.Federation.Discovery

/-!
# Keys of different actors

The identifiers of keys are chosen by the documents that advertise them, and are
primary keys of one table. The keys of two actors stay apart exactly when no key that
one provides has an identifier that the other lists: neither the parser nor the store
compares an identifier with the actor.
-/

set_option autoImplicit false

namespace Roosty.Federation.Discovery

open Library Network

/-- A document with what it is stored by: the libraries and the policy, what other
servers answer, and the time. -/
structure Served where
  codec : Codec
  resolver : Resolver
  web : Web
  now : Int
  document : RemoteActorDocument

namespace Served

variable (served : Served)

def references : List RemoteKeyReference :=
  served.document.publicKey.toList ++ served.document.assertionMethod

def parse (reference : RemoteKeyReference) : Except DiscoveryError (Option ParsedActorKey) :=
  parseKeyReference served.codec served.resolver served.web reference served.document.id served.now

def keys : Except DiscoveryError (List ParsedActorKey) :=
  actorKeys served.codec served.resolver served.web served.document served.now

def Advertises (id : String) : Prop :=
  ∃ reference ∈ served.references, keyReferenceId reference = id

/-- The document provides a usable key with an identifier: it is found, is of a known
kind and has not expired. -/
def Provides (id : String) : Prop :=
  ∃ reference ∈ served.references, keyReferenceId reference = id ∧
    ∃ key, served.parse reference = .ok (some key)

variable {served} in
theorem Provides.advertises {id : String} (provided : served.Provides id) :
    served.Advertises id := by
  obtain ⟨reference, member, same, _⟩ := provided
  exact ⟨reference, member, same⟩

def storeKeys (rows : List RemoteActorKey) (actorId : AccountId) :
    Except DiscoveryError (List RemoteActorKey) := do
  let keys ← served.keys
  replaceRemoteActorKeys rows actorId keys

end Served

/-- Storing the first document for one actor leaves the other actor's keys alone. -/
structure NonInterfering (first second : Served) (actor other : AccountId)
    (rows : List RemoteActorKey) : Prop where
  stores : ∀ stored, first.storeKeys rows actor = .ok stored →
    (second.storeKeys rows other).isOk = true → (second.storeKeys stored other).isOk = true
  keeps : ∀ stored, first.storeKeys rows actor = .ok stored →
    stored.filter (·.remoteActorId == other) = rows.filter (·.remoteActorId == other)
  resolves : ∀ stored, first.storeKeys rows actor = .ok stored →
    ∀ id, second.Advertises id → ∀ now row, findRemoteActorKey stored now id = some row →
      row.remoteActorId ≠ actor

/-!
## Parsed keys
-/

section

variable {codec : Codec} {resolver : Resolver} {web : Web} {now : Int} {controller : String}
  {key : ParsedActorKey}

private theorem parseLegacyKey_id {legacy : RemotePublicKey}
    (parsed : parseLegacyKey codec legacy controller = .ok key) :
    key.keyId = legacy.id ∧ key.expiresAt = none := by
  unfold parseLegacyKey at parsed
  split at parsed
  · cases parsed
  split at parsed
  · cases parsed
  · cases parsed
    exact ⟨rfl, rfl⟩

private theorem parseMultikey_id {multikey : RemoteMultikey}
    (parsed : parseMultikey codec multikey controller now = .ok (some key)) :
    key.keyId = multikey.id ∧ key.expiresAt.all (now < ·) = true := by
  unfold parseMultikey at parsed
  obtain ⟨_, _, parsed⟩ := bind_ok parsed
  obtain ⟨expiresAt, _, parsed⟩ := bind_ok parsed
  split at parsed
  · cases parsed
  rename_i unexpired
  obtain ⟨⟨base, bytes⟩, _, parsed⟩ := bind_ok parsed
  obtain ⟨_, _, parsed⟩ := bind_ok parsed
  obtain ⟨algorithm, _, parsed⟩ := bind_ok parsed
  cases algorithm with
  | none => cases parsed
  | some algorithm =>
      cases parsed
      refine ⟨rfl, ?_⟩
      cases expiresAt with
      | none => rfl
      | some time => simpa using unexpired

private theorem parseKeyReference_id {reference : RemoteKeyReference}
    (parsed : parseKeyReference codec resolver web reference controller now = .ok (some key)) :
    key.keyId = keyReferenceId reference ∧ key.expiresAt.all (now < ·) = true := by
  have ofLegacy : ∀ legacy : RemotePublicKey,
      (parseLegacyKey codec legacy controller).map some = .ok (some key) →
        key.keyId = legacy.id ∧ key.expiresAt.all (now < ·) = true := by
    intro legacy parsed
    cases result : parseLegacyKey codec legacy controller with
    | error error =>
        rw [result] at parsed
        cases parsed
    | ok found =>
        rw [result] at parsed
        cases parsed
        obtain ⟨id, permanent⟩ := parseLegacyKey_id result
        rw [permanent]
        exact ⟨id, rfl⟩
  unfold parseKeyReference at parsed
  cases reference with
  | legacy legacy => exact ofLegacy legacy parsed
  | multikey multikey => exact parseMultikey_id parsed
  | reference keyId =>
      obtain ⟨url, _, parsed⟩ := bind_ok parsed
      obtain ⟨_, _, parsed⟩ := bind_ok parsed
      obtain ⟨fetched, _, parsed⟩ := bind_ok parsed
      cases fetched with
      | invalid => cases parsed
      | multikey multikey =>
          obtain ⟨_, same, parsed⟩ := bind_ok parsed
          have sameId : multikey.id = keyId := by simpa using ensure_ok same
          rw [← sameId]
          exact parseMultikey_id parsed
      | legacy legacy =>
          obtain ⟨_, same, parsed⟩ := bind_ok parsed
          have sameId : legacy.id = keyId := by simpa using ensure_ok same
          rw [← sameId]
          exact ofLegacy legacy parsed

end

/-- The keys so far: distinct, unexpired, and those of the references read. -/
private structure Collected (served : Served) (read : List RemoteKeyReference)
    (keys : List ParsedActorKey) : Prop where
  distinct : (keys.map ParsedActorKey.keyId).Nodup
  unexpired : ∀ key ∈ keys, key.expiresAt.all (served.now < ·) = true
  provided : ∀ id, id ∈ keys.map ParsedActorKey.keyId ↔
    ∃ reference ∈ read, keyReferenceId reference = id ∧
      ∃ key, served.parse reference = .ok (some key)

namespace Collected

variable {served : Served} {read : List RemoteKeyReference} {keys : List ParsedActorKey}
  {reference : RemoteKeyReference} {key : ParsedActorKey}

private theorem unusable (collected : Collected served read keys)
    (parsed : served.parse reference = .ok none) :
    Collected served (read ++ [reference]) keys := by
  refine ⟨collected.distinct, collected.unexpired, ?_⟩
  intro id
  rw [collected.provided id]
  simp only [List.mem_append, List.mem_singleton]
  constructor
  · intro ⟨other, member, found⟩
    exact ⟨other, .inl member, found⟩
  · intro ⟨other, member, same, key, found⟩
    rcases member with member | rfl
    · exact ⟨other, member, same, key, found⟩
    · rw [parsed] at found
      cases found

private theorem repeated (collected : Collected served read keys)
    (parsed : served.parse reference = .ok (some key))
    (seen : key.keyId ∈ keys.map ParsedActorKey.keyId) :
    Collected served (read ++ [reference]) keys := by
  refine ⟨collected.distinct, collected.unexpired, ?_⟩
  intro id
  constructor
  · intro member
    obtain ⟨other, read, found⟩ := (collected.provided id).mp member
    exact ⟨other, List.mem_append_left _ read, found⟩
  · intro ⟨other, member, same, found⟩
    rcases List.mem_append.mp member with member | member
    · exact (collected.provided id).mpr ⟨other, member, same, found⟩
    · rw [List.mem_singleton.mp member] at same
      rwa [← same, ← (parseKeyReference_id parsed).1]

private theorem fresh (collected : Collected served read keys)
    (parsed : served.parse reference = .ok (some key))
    (unseen : key.keyId ∉ keys.map ParsedActorKey.keyId) :
    Collected served (read ++ [reference]) (keys ++ [key]) := by
  obtain ⟨sameId, live⟩ := parseKeyReference_id parsed
  refine ⟨?_, ?_, ?_⟩
  · rw [List.map_append, List.map_singleton]
    exact List.nodup_append.mpr ⟨collected.distinct, List.nodup_singleton _, by
      intro id member other new same
      rw [List.mem_singleton.mp new] at same
      exact unseen (same ▸ member)⟩
  · intro other member
    rcases List.mem_append.mp member with member | member
    · exact collected.unexpired other member
    · rwa [List.mem_singleton.mp member]
  · intro id
    rw [List.map_append, List.mem_append, collected.provided id]
    constructor
    · intro member
      rcases member with ⟨other, read, found⟩ | new
      · exact ⟨other, List.mem_append_left _ read, found⟩
      · have same : id = key.keyId := by simpa using new
        exact ⟨reference, by simp, by rw [same, sameId], key, parsed⟩
    · intro ⟨other, member, same, found⟩
      rcases List.mem_append.mp member with member | member
      · exact .inl ⟨other, member, same, found⟩
      · rw [List.mem_singleton.mp member] at same
        refine .inr ?_
        simp [← same, sameId]

end Collected

private theorem assertionKeys_collected {served : Served} {read : List RemoteKeyReference}
    {references : List RemoteKeyReference} {keys found : List ParsedActorKey}
    (collected : Collected served read keys)
    (accepted : assertionKeys served.codec served.resolver served.web served.document served.now
      keys references = .ok found) :
    Collected served (read ++ references) found := by
  induction references generalizing read keys with
  | nil =>
      cases accepted
      simpa using collected
  | cons reference references ih =>
      unfold assertionKeys at accepted
      obtain ⟨parsed, parse, accepted⟩ := bind_ok accepted
      have parse : served.parse reference = .ok parsed := parse
      rw [List.append_cons]
      cases parsed with
      | none => exact ih (collected.unusable parse) accepted
      | some key =>
          have seen_iff : (keys.any fun other => other.keyId == key.keyId) = true ↔
              key.keyId ∈ keys.map ParsedActorKey.keyId := by
            simp
          dsimp only at accepted
          split at accepted
          · rename_i seen
            split at accepted
            · exact ih (collected.repeated parse (seen_iff.mp seen)) accepted
            · cases accepted
          · rename_i unseen
            exact ih (collected.fresh parse (fun seen => unseen (seen_iff.mpr seen))) accepted

private theorem legacyKeys_collected {served : Served} {keys : List ParsedActorKey}
    (accepted : legacyKeys served.codec served.resolver served.web served.document served.now =
      .ok keys) :
    Collected served served.document.publicKey.toList keys := by
  have empty : Collected served [] [] := ⟨List.nodup_nil, by simp, by simp⟩
  unfold legacyKeys at accepted
  cases advertised : served.document.publicKey with
  | none =>
      rw [advertised] at accepted
      cases accepted
      exact empty
  | some reference =>
      rw [advertised] at accepted
      change (served.parse reference).map Option.toList = .ok keys at accepted
      cases parsed : served.parse reference with
      | error error =>
          rw [parsed] at accepted
          cases accepted
      | ok key =>
          rw [parsed] at accepted
          cases accepted
          cases key with
          | none => exact empty.unusable parsed
          | some key => exact empty.fresh parsed (by simp)

private theorem keys_collected {served : Served} {keys : List ParsedActorKey}
    (accepted : served.keys = .ok keys) : Collected served served.references keys := by
  unfold Served.keys actorKeys at accepted
  obtain ⟨_, _, accepted⟩ := bind_ok accepted
  obtain ⟨first, legacy, accepted⟩ := bind_ok accepted
  obtain ⟨found, assertions, accepted⟩ := bind_ok accepted
  obtain ⟨_, _, accepted⟩ := bind_ok accepted
  obtain ⟨_, _, accepted⟩ := bind_ok accepted
  cases accepted
  exact assertionKeys_collected (legacyKeys_collected legacy) assertions

/-!
## The table of keys
-/

private theorem insertKeys_eq_ok_iff {actorId : AccountId} {rows stored : List RemoteActorKey}
    {keys : List ParsedActorKey} :
    insertKeys actorId rows keys = .ok stored ↔
      (keys.map ParsedActorKey.keyId).Nodup ∧
        (∀ key ∈ keys, ∀ row ∈ rows, row.keyId ≠ key.keyId) ∧
          stored = rows ++ keys.map (·.row actorId) := by
  induction keys generalizing rows with
  | nil => simp [insertKeys, eq_comm]
  | cons key keys ih =>
      unfold insertKeys
      by_cases taken : (rows.any fun row => row.keyId == key.keyId) = true
      · rw [if_pos taken]
        obtain ⟨row, member, same⟩ := List.any_eq_true.mp taken
        have clash : row.keyId = key.keyId := by simpa using same
        constructor
        · intro impossible
          cases impossible
        · intro ⟨_, absent, _⟩
          exact absurd clash (absent key (List.mem_cons_self ..) row member)
      · rw [if_neg taken, ih]
        have free : ∀ row ∈ rows, row.keyId ≠ key.keyId := by simpa using taken
        have moved : (∀ other ∈ keys, ∀ row ∈ rows ++ [key.row actorId],
            row.keyId ≠ other.keyId) ↔
            (∀ other ∈ keys, ∀ row ∈ rows, row.keyId ≠ other.keyId) ∧
              key.keyId ∉ keys.map ParsedActorKey.keyId := by
          simp only [List.mem_append, List.mem_singleton, List.mem_map]
          constructor
          · intro absent
            refine ⟨fun other member row old => absent other member row (.inl old), ?_⟩
            intro ⟨other, member, same⟩
            exact absent other member (key.row actorId) (.inr rfl) same.symm
          · intro ⟨absent, unseen⟩ other member row stored
            rcases stored with old | rfl
            · exact absent other member row old
            · intro same
              exact unseen ⟨other, member, same.symm⟩
        rw [moved, List.map_cons, List.nodup_cons, List.map_cons, List.forall_mem_cons,
          List.append_assoc, List.singleton_append]
        constructor
        · intro ⟨distinct, ⟨absent, unseen⟩, same⟩
          exact ⟨⟨unseen, distinct⟩, ⟨free, absent⟩, same⟩
        · intro ⟨⟨unseen, distinct⟩, ⟨_, absent⟩, same⟩
          exact ⟨distinct, ⟨absent, unseen⟩, same⟩

private theorem storeKeys_eq_ok_iff {served : Served} {rows stored : List RemoteActorKey}
    {actor : AccountId} :
    served.storeKeys rows actor = .ok stored ↔
      ∃ keys, served.keys = .ok keys ∧
        (∀ row ∈ rows, row.remoteActorId ≠ actor → ¬served.Provides row.keyId) ∧
          stored = rows.filter (·.remoteActorId != actor) ++ keys.map (·.row actor) := by
  unfold Served.storeKeys
  cases accepted : served.keys with
  | error error => simp [Bind.bind, Except.bind]
  | ok keys =>
      have collected := keys_collected accepted
      rw [ok_bind, replaceRemoteActorKeys, insertKeys_eq_ok_iff]
      have kept : Table.deleteWhere (fun row => row.remoteActorId == actor) rows =
          rows.filter (·.remoteActorId != actor) := rfl
      rw [kept]
      constructor
      · intro ⟨_, absent, same⟩
        refine ⟨keys, rfl, ?_, same⟩
        intro row member other advertised
        obtain ⟨key, found, sameId⟩ := List.mem_map.mp ((collected.provided _).mpr advertised)
        exact absent key found row (List.mem_filter.mpr ⟨member, by simpa using other⟩) sameId.symm
      · intro ⟨found, same, absent, stored⟩
        cases same
        refine ⟨collected.distinct, ?_, stored⟩
        intro key member row old sameId
        obtain ⟨old, other⟩ := List.mem_filter.mp old
        refine absent row old (by simpa using other) ?_
        rw [sameId]
        exact (collected.provided _).mp (List.mem_map_of_mem member)

private theorem stored_provided {served : Served} {rows stored : List RemoteActorKey}
    {actor : AccountId} {row : RemoteActorKey} (success : served.storeKeys rows actor = .ok stored)
    (member : row ∈ stored) :
    (row ∈ rows ∧ row.remoteActorId ≠ actor) ∨
      (row.remoteActorId = actor ∧ served.Provides row.keyId) := by
  obtain ⟨keys, accepted, _, rfl⟩ := storeKeys_eq_ok_iff.mp success
  rcases List.mem_append.mp member with old | new
  · obtain ⟨old, other⟩ := List.mem_filter.mp old
    exact .inl ⟨old, by simpa using other⟩
  · obtain ⟨key, found, rfl⟩ := List.mem_map.mp new
    refine .inr ⟨rfl, ?_⟩
    exact ((keys_collected accepted).provided _).mp (List.mem_map_of_mem found)

private theorem stored_keeps {served : Served} {rows stored : List RemoteActorKey}
    {actor other : AccountId} (success : served.storeKeys rows actor = .ok stored)
    (different : actor ≠ other) :
    stored.filter (·.remoteActorId == other) = rows.filter (·.remoteActorId == other) := by
  obtain ⟨keys, _, _, rfl⟩ := storeKeys_eq_ok_iff.mp success
  rw [List.filter_append, List.filter_filter]
  have none : (keys.map (·.row actor)).filter (·.remoteActorId == other) = [] := by
    refine List.filter_eq_nil_iff.mpr ?_
    intro row member
    obtain ⟨key, _, rfl⟩ := List.mem_map.mp member
    simpa [ParsedActorKey.row] using different
  rw [none, List.append_nil]
  refine List.filter_congr ?_
  intro row _
  by_cases own : row.remoteActorId = other
  · simp [own, different.symm]
  · simp [own]

private theorem stored_resolves {served : Served} {stored : List RemoteActorKey}
    {actor : AccountId} {id : String} (success : served.storeKeys [] actor = .ok stored)
    (advertised : served.Provides id) :
    ∃ row, findRemoteActorKey stored served.now id = some row ∧ row.remoteActorId = actor := by
  obtain ⟨keys, accepted, _, rfl⟩ := storeKeys_eq_ok_iff.mp success
  have collected := keys_collected accepted
  obtain ⟨key, member, sameId⟩ := List.mem_map.mp ((collected.provided id).mpr advertised)
  have unexpired := collected.unexpired key member
  rw [List.filter_nil, List.nil_append]
  cases found : findRemoteActorKey (keys.map (·.row actor)) served.now id with
  | none =>
      have missing := List.find?_eq_none.mp found (key.row actor) (List.mem_map_of_mem member)
      simp [ParsedActorKey.row, sameId, unexpired] at missing
  | some row =>
      refine ⟨row, rfl, ?_⟩
      obtain ⟨key, _, rfl⟩ := List.mem_map.mp (List.mem_of_find?_eq_some found)
      rfl

/-!
## Non-interference
-/

private theorem nonInterfering_of_disjoint {first second : Served} {actor other : AccountId}
    (different : actor ≠ other) (disjoint : ∀ id, first.Provides id → ¬second.Advertises id)
    (rows : List RemoteActorKey) : NonInterfering first second actor other rows where
  stores := by
    intro stored success possible
    cases result : second.storeKeys rows other with
    | error error =>
        rw [result] at possible
        cases possible
    | ok expected =>
        obtain ⟨keys, accepted, absent, _⟩ := storeKeys_eq_ok_iff.mp result
        have free : ∀ row ∈ stored, row.remoteActorId ≠ other →
            ¬second.Provides row.keyId := by
          intro row member foreign
          rcases stored_provided success member with ⟨old, _⟩ | ⟨_, advertised⟩
          · exact absent row old foreign
          · intro provided
            exact disjoint row.keyId advertised provided.advertises
        rw [storeKeys_eq_ok_iff.mpr ⟨keys, accepted, free, rfl⟩]
        rfl
  keeps := fun _ success => stored_keeps success different
  resolves := by
    intro stored success id advertised now row found own
    have member : row ∈ stored := List.mem_of_find?_eq_some found
    have sameId : row.keyId = id := by
      have matched := List.find?_some found
      simp only [Bool.and_eq_true, beq_iff_eq] at matched
      exact matched.1
    rcases stored_provided success member with ⟨_, foreign⟩ | ⟨_, taken⟩
    · exact foreign own
    · rw [sameId] at taken
      exact disjoint id taken advertised

/-- An accepted document interferes with another exactly when it provides a key with an
identifier that the other lists. -/
theorem keys_noninterfering_iff (first second : Served) (actor other : AccountId)
    (different : actor ≠ other) :
    (∀ rows, NonInterfering first second actor other rows) ↔
      (first.keys.isOk = true → ∀ id, first.Provides id → ¬second.Advertises id) := by
  constructor
  · intro apart accepted id advertised clash
    cases result : first.keys with
    | error error =>
        rw [result] at accepted
        cases accepted
    | ok keys =>
        have success : first.storeKeys [] actor =
            .ok ([].filter (·.remoteActorId != actor) ++ keys.map (·.row actor)) :=
          storeKeys_eq_ok_iff.mpr ⟨keys, result, by simp, rfl⟩
        obtain ⟨row, found, own⟩ := stored_resolves success advertised
        exact (apart []).resolves _ success id clash first.now row found own
  · intro apart rows
    cases result : first.keys with
    | error error =>
        -- a refused document is not stored
        have refused : ∀ stored, first.storeKeys rows actor ≠ .ok stored := by
          intro stored success
          obtain ⟨keys, accepted, _⟩ := storeKeys_eq_ok_iff.mp success
          rw [result] at accepted
          cases accepted
        exact ⟨fun stored success => absurd success (refused stored),
          fun stored success => absurd success (refused stored),
          fun stored success => absurd success (refused stored)⟩
    | ok keys => exact nonInterfering_of_disjoint different (apart (by rw [result]; rfl)) rows

namespace Sample

def host (name : String) : Network.Url := ⟨"https", "", none, some (.domain name), some 443, "/"⟩

def codec : Codec where
  parseUrl text :=
    if text == "https://a.example/" then some (host "a.example")
    else if text == "https://b.example/" then some (host "b.example")
    else none
  urlText _ := ""
  parseRfc3339 _ := none
  rsaFromPem _ := some [1]
  rsaIsPkcs1 _ := true
  rsaToPem _ := "pem"
  multibase _ := none

def resolver : Resolver where
  federationDomainIsAllowed _ := true
  federationDomainIsSuspended _ := false
  parseIp _ := none
  lookupHost _ port := some [⟨.v4 ⟨1, 1, 1, 1⟩, port⟩]

def web : Web where
  actor _ := .error (invalid "not found")
  key _ := .error (invalid "not found")
  webFinger _ _ := .error (invalid "not found")

def served (id keyId : String) : Served where
  codec := codec
  resolver := resolver
  web := web
  now := 0
  document :=
    { id := id, type := .person, preferredUsername := "alice", alsoKnownAs := [],
      published := none, inbox := id, followers := none, featured := none, featuredTags := none,
      sharedInbox := none, publicKey := some (.legacy ⟨keyId, id, "pem"⟩), assertionMethod := [] }

end Sample

open Sample in
theorem keys_noninterfering_own :
    NonInterfering (served "https://a.example/" "https://a.example/#key")
      (served "https://b.example/" "https://b.example/#key") ⟨1⟩ ⟨2⟩ [] := by
  refine (keys_noninterfering_iff _ _ _ _ (by decide)).mpr ?_ []
  intro _ id first second
  obtain ⟨reference, member, same, _⟩ := first
  obtain ⟨clash, advertised, taken⟩ := second
  rw [List.mem_singleton.mp member] at same
  rw [List.mem_singleton.mp advertised] at taken
  exact absurd (same.trans taken.symm) (by decide)

open Sample in
/-- An actor advertises the key of an actor on another host as its own: the other
document cannot be stored, and the identifier resolves to the first actor. -/
theorem keys_interfere :
    Network.Url.sameOrigin (host "a.example") (host "b.example") = false ∧
      ¬NonInterfering (served "https://a.example/" "https://b.example/#key")
        (served "https://b.example/" "https://b.example/#key") ⟨1⟩ ⟨2⟩ [] ∧
      (Served.storeKeys (served "https://b.example/" "https://b.example/#key")
          [⟨"https://b.example/#key", ⟨1⟩, .rsaPkcs1Sha256, [1], none⟩] ⟨2⟩).isOk = false := by
  refine ⟨by decide, ?_, by decide⟩
  intro apart
  have refused := apart.stores [⟨"https://b.example/#key", ⟨1⟩, .rsaPkcs1Sha256, [1], none⟩]
    (by decide) (by decide)
  exact absurd refused (by decide)

end Roosty.Federation.Discovery
