import Roosty.Federation.ActorKeys
import Roosty.Library.Base58

/-!
# Published keys are parsed back

The parser of actor documents reads exactly the published keys that have not expired
meanwhile, when there are at most ten of them; it refuses documents with more.
-/

set_option autoImplicit false

namespace Roosty.Federation.ActorKeys

open Library Discovery Network

def endOfTime : Int := 253402300800 * 1000000

structure Inverse (codec : Codec) (encoder : Encoder) : Prop where
  multibase : ∀ bytes, codec.multibase (encoder.base58Btc bytes) = some (.base58Btc, bytes)
  rsa : ∀ der, codec.rsaIsPkcs1 der = true → codec.rsaFromPem (codec.rsaToPem der) = some der
  rfc3339 : ∀ time, 0 ≤ time → time < endOfTime →
    ∃ text, encoder.formatRfc3339 time = some text ∧ codec.parseRfc3339 text = some time

/-- The constraints of the key table, and the forms in which keys are generated. -/
structure KeysValid (codec : Codec) (rows : List LocalActorKey) : Prop where
  ids : (rows.map LocalActorKey.id).Nodup
  keyIds : (rows.map LocalActorKey.keyId).Nodup
  named : ∀ row ∈ rows, row.keyId ≠ ""
  active : Table.UniqueOn activeAlgorithm rows
  retiring : ∀ row ∈ rows, row.expiresAt.isSome = row.retiringAt.isSome
  dated : ∀ row ∈ rows, ∀ expires, row.expiresAt = some expires → 0 ≤ expires ∧ expires < endOfTime
  rsa : ∀ row ∈ rows, row.algorithm = .rsaPkcs1Sha256 → codec.rsaIsPkcs1 row.publicKey = true
  ed25519 : ∀ row ∈ rows, row.algorithm = .ed25519 → row.publicKey.length = 32

structure GeneratedValid (codec : Codec) (generated : GeneratedKeys) : Prop where
  rsa : codec.rsaIsPkcs1 generated.rsa.publicKey = true
  ed25519 : generated.ed25519.publicKey.length = 32

def LocalActorKey.unexpired (later : Int) (key : LocalActorKey) : Bool :=
  key.expiresAt.all (later < ·)

def LocalActorKey.parsed (key : LocalActorKey) : ParsedActorKey :=
  ⟨key.keyId, key.algorithm, key.publicKey, key.expiresAt⟩

/-!
## Parsing
-/

section

variable {codec : Codec} {encoder : Encoder} {resolver : Resolver} {web : Web} {id : String}
  {later : Int}

private theorem multikeyAlgorithm_published {key : LocalActorKey}
    (rsa : key.algorithm = .rsaPkcs1Sha256 → codec.rsaIsPkcs1 key.publicKey = true)
    (ed25519 : key.algorithm = .ed25519 → key.publicKey.length = 32) :
    multikeyAlgorithm codec (multicodecPrefix key.algorithm ++ key.publicKey) =
      .ok (some (key.algorithm, key.publicKey)) := by
  cases algorithm : key.algorithm with
  | rsaPkcs1Sha256 => simp [multicodecPrefix, multikeyAlgorithm, rsa algorithm]
  | ed25519 => simp [multicodecPrefix, multikeyAlgorithm, ed25519 algorithm]

theorem parseMultikey_published (inverse : Inverse codec encoder) {rows : List LocalActorKey}
    (valid : KeysValid codec rows) {key : LocalActorKey} (member : key ∈ rows) :
    parseMultikey codec (multikey encoder id key).decoded id later =
      .ok (if key.unexpired later then some key.parsed else none) := by
  have named : (key.keyId != "") = true := by simpa using valid.named key member
  have expires : parseExpires codec (key.expiresAt.bind encoder.formatRfc3339) =
      .ok key.expiresAt := by
    cases expiresAt : key.expiresAt with
    | none => rfl
    | some time =>
        obtain ⟨lower, upper⟩ := valid.dated key member time expiresAt
        obtain ⟨text, printed, read⟩ := inverse.rfc3339 time lower upper
        simp [parseExpires, printed, read]
  have decoded := multikeyAlgorithm_published (valid.rsa key member) (valid.ed25519 key member)
  have expired : key.expiresAt.any (· ≤ later) = !key.unexpired later := by
    cases expiresAt : key.expiresAt with
    | none => simp [LocalActorKey.unexpired, expiresAt]
    | some time => simp [LocalActorKey.unexpired, expiresAt, ← decide_not]
  simp only [parseMultikey, multikey, Multikey.decoded, named, expires, expired, beq_self_eq_true,
    Bool.and_self, ensure_true, ok_bind, inverse.multibase, okOr_some]
  cases fresh : key.unexpired later with
  | false => rfl
  | true =>
      simp only [decoded]
      rfl

private theorem assertionKeys_published (inverse : Inverse codec encoder)
    {rows : List LocalActorKey} (valid : KeysValid codec rows) {document : RemoteActorDocument}
    (named : document.id = id) {legacy : RemoteKeyReference}
    (first : document.publicKey = some legacy) {keys : List LocalActorKey}
    (stored : ∀ key ∈ keys, key ∈ rows) (unique : (keys.map LocalActorKey.keyId).Nodup)
    {found : List ParsedActorKey}
    (present : ∃ key ∈ found, key.keyId = keyReferenceId legacy)
    (fresh : ∀ key ∈ keys, key.keyId ≠ keyReferenceId legacy →
      ∀ other ∈ found, other.keyId ≠ key.keyId) :
    assertionKeys codec resolver web document later found
        (keys.map fun key => .multikey (multikey encoder id key).decoded) =
      .ok (found ++ (keys.filter fun key =>
        key.unexpired later && key.keyId != keyReferenceId legacy).map LocalActorKey.parsed) := by
  induction keys generalizing found with
  | nil => simp [assertionKeys]
  | cons key keys ih =>
      have parsed : parseMultikey codec (multikey encoder id key).decoded id later = _ :=
        parseMultikey_published inverse valid (stored key List.mem_cons_self)
      rw [List.map_cons] at unique
      obtain ⟨alone, restUnique⟩ := List.nodup_cons.mp unique
      have rest : ∀ other ∈ keys, other ∈ rows :=
        fun other member => stored other (List.mem_cons_of_mem _ member)
      have same {found} := @ih rest restUnique found
      simp only [List.map_cons, assertionKeys, parseKeyReference, named, parsed, ok_bind]
      cases alive : key.unexpired later with
      | false =>
          simp only [Bool.false_eq_true, if_false, List.filter_cons, alive, Bool.false_and]
          exact same present fun other member => fresh other (List.mem_cons_of_mem _ member)
      | true =>
          by_cases own : key.keyId = keyReferenceId legacy
          · obtain ⟨main, mainMember, mainId⟩ := present
            have seen : (found.any fun other => other.keyId == key.parsed.keyId) = true :=
              List.any_eq_true.mpr ⟨main, mainMember, by simp [LocalActorKey.parsed, mainId, own]⟩
            have skips : (document.publicKey.any fun reference =>
                keyReferenceId reference == key.parsed.keyId) = true := by
              simp [first, LocalActorKey.parsed, own]
            simp only [if_true, seen, skips, List.filter_cons, alive, own, bne_self_eq_false,
              Bool.and_false, Bool.false_eq_true, if_false]
            exact same ⟨main, mainMember, mainId⟩
              fun other member => fresh other (List.mem_cons_of_mem _ member)
          · have unseen : (found.any fun other => other.keyId == key.parsed.keyId) = false := by
              rw [List.any_eq_false]
              intro other member
              simpa [LocalActorKey.parsed] using fresh key List.mem_cons_self own other member
            have other_ : (key.keyId != keyReferenceId legacy) = true := by simpa using own
            simp only [if_true, unseen, Bool.false_eq_true, if_false, List.filter_cons, alive, other_,
              Bool.and_self, List.map_cons]
            rw [same, List.append_assoc, List.singleton_append]
            · obtain ⟨main, mainMember, mainId⟩ := present
              exact ⟨main, List.mem_append_left _ mainMember, mainId⟩
            · intro next member different other otherMember
              rcases List.mem_append.mp otherMember with old | new
              · exact fresh next (List.mem_cons_of_mem _ member) different other old
              · rw [List.mem_singleton.mp new]
                intro clash
                exact alone (List.mem_map.mpr ⟨next, member, clash.symm⟩)

end

/-!
## Publishing
-/

section

variable {rows : List LocalActorKey} {accountId : AccountId} {now : Int}

@[simp] theorem mem_publishable {key : LocalActorKey} :
    key ∈ publishableLocalActorKeys rows accountId now ↔
      key ∈ rows ∧ publishable accountId now key = true := by
  rw [publishableLocalActorKeys, List.mem_insertionSort, List.mem_filter]

private theorem publishable_keyIds (unique : (rows.map LocalActorKey.keyId).Nodup) :
    ((publishableLocalActorKeys rows accountId now).map LocalActorKey.keyId).Nodup := by
  have sorted := (List.perm_insertionSort PublishedBefore
    (rows.filter (publishable accountId now))).map LocalActorKey.keyId
  exact sorted.nodup_iff.mpr (unique.sublist (List.filter_sublist.map _))

theorem findActiveLocalActorKey_some {algorithm : ActorKeyAlgorithm} {key : LocalActorKey}
    (found : findActiveLocalActorKey rows accountId algorithm = some key) :
    key ∈ rows ∧ key.accountId = accountId ∧ key.algorithm = algorithm ∧ key.retiringAt = none := by
  have matched := List.find?_some found
  simp only [activeAlgorithm, beq_iff_eq] at matched
  split at matched
  next active =>
    obtain ⟨same, sameAlgorithm⟩ := Prod.mk.inj (Option.some.inj matched)
    exact ⟨List.mem_of_find?_eq_some found, same, sameAlgorithm, by simpa using active⟩
  next => cases matched

variable {codec : Codec} {encoder : Encoder}

private theorem legacyKeyId_published (valid : KeysValid codec rows) {rsa : LocalActorKey}
    (found : findActiveLocalActorKey rows accountId .rsaPkcs1Sha256 = some rsa) (now : Int)
    (id : String) :
    rsa ∈ publishableLocalActorKeys rows accountId now ∧
      legacyKeyId id (publishableLocalActorKeys rows accountId now) = rsa.keyId := by
  obtain ⟨member, owner, algorithm, active⟩ := findActiveLocalActorKey_some found
  have published : rsa ∈ publishableLocalActorKeys rows accountId now :=
    mem_publishable.mpr ⟨member, by simp [publishable, owner, active]⟩
  refine ⟨published, ?_⟩
  unfold legacyKeyId
  split
  next key first =>
    have matched := List.find?_some first
    simp only [Bool.and_eq_true, beq_iff_eq, Option.isNone_iff_eq_none] at matched
    obtain ⟨keyMember, keyPublished⟩ := mem_publishable.mp (List.mem_of_find?_eq_some first)
    have keyOwner : key.accountId = accountId := by
      simp only [publishable, Bool.and_eq_true, beq_iff_eq] at keyPublished
      exact keyPublished.1
    have keyActive : activeAlgorithm key = some (accountId, .rsaPkcs1Sha256) := by
      simp [activeAlgorithm, matched, keyOwner]
    have rsaActive : activeAlgorithm rsa = some (accountId, .rsaPkcs1Sha256) := by
      simp [activeAlgorithm, active, owner, algorithm]
    have same : key = rsa := valid.active.eq_of_key keyMember member keyActive rsaActive
    rw [same]
  next none =>
    exact absurd (List.find?_eq_none.mp none rsa published) (by simp [algorithm, active])

private theorem cons_filter_perm {keys : List LocalActorKey}
    (unique : (keys.map LocalActorKey.keyId).Nodup) {rsa : LocalActorKey} (member : rsa ∈ keys) :
    (rsa :: keys.filter (·.keyId != rsa.keyId)).Perm keys := by
  have distinct : keys.Nodup := List.Nodup.of_map _ unique
  refine (List.perm_ext_iff_of_nodup (List.nodup_cons.mpr ⟨?_, distinct.filter _⟩) distinct).mpr ?_
  · simp
  · intro key
    rw [List.mem_cons, List.mem_filter]
    constructor
    · rintro (rfl | ⟨known, _⟩)
      · exact member
      · exact known
    · intro known
      by_cases same : key.keyId = rsa.keyId
      · exact .inl (List.inj_on_of_nodup_map unique known member same)
      · exact .inr ⟨known, by simpa using same⟩

variable {resolver : Resolver} {web : Web}

theorem actorDocument_parses_back (inverse : Inverse codec encoder) (valid : KeysValid codec rows)
    {account : LocalAccount} {rsa : LocalActorKey}
    (found : findActiveLocalActorKey rows account.id .rsaPkcs1Sha256 = some rsa) (later : Int) :
    let keys := publishableLocalActorKeys rows account.id now
    let document := (actorDocument encoder account (codec.rsaToPem rsa.publicKey) keys).decoded
    (keys.length ≤ 10 → ∃ parsed, actorKeys codec resolver web document later = .ok parsed ∧
      parsed.Perm ((keys.filter (·.unexpired later)).map LocalActorKey.parsed)) ∧
    (10 < keys.length → actorKeys codec resolver web document later =
      .error (invalid "remote actor advertises too many keys")) := by
  intro keys document
  obtain ⟨member, owner, algorithm, active⟩ := findActiveLocalActorKey_some found
  obtain ⟨published, legacyId⟩ := legacyKeyId_published valid found now (actorUrl encoder account)
  have count : document.assertionMethod.length = keys.length := by
    simp [document, Actor.decoded, actorDocument]
  constructor
  · intro few
    have permanent : rsa.expiresAt = none := by
      have both := valid.retiring rsa member
      rw [active] at both
      simpa using both
    have first : legacyKeys codec resolver web document later = .ok [rsa.parsed] := by
      have named : (rsa.keyId == "") = false := by simpa using valid.named rsa member
      simp [legacyKeys, document, Actor.decoded, actorDocument, parseKeyReference, parseLegacyKey,
        keys, legacyId, named, inverse.rsa _ (valid.rsa rsa member algorithm), Except.map,
        LocalActorKey.parsed, algorithm, permanent]
    have unique : (keys.map LocalActorKey.keyId).Nodup := publishable_keyIds valid.keyIds
    have references : document.assertionMethod =
        keys.map fun key => .multikey (multikey encoder (actorUrl encoder account) key).decoded := by
      simp [document, Actor.decoded, actorDocument]
    have loop : assertionKeys codec resolver web document later [rsa.parsed]
        document.assertionMethod = .ok ([rsa.parsed] ++ (keys.filter fun key =>
          key.unexpired later && key.keyId != rsa.keyId).map LocalActorKey.parsed) := by
      have reference : document.publicKey = some (.legacy ⟨legacyKeyId (actorUrl encoder account)
          keys, actorUrl encoder account, codec.rsaToPem rsa.publicKey⟩) := rfl
      have named : document.id = actorUrl encoder account := rfl
      rw [references, ← legacyId]
      refine assertionKeys_published inverse valid named reference
        (fun key known => (mem_publishable.mp known).1) unique
        ⟨rsa.parsed, List.mem_singleton_self _, legacyId.symm⟩ ?_
      intro key _ different other known
      rw [List.mem_singleton.mp known]
      exact fun same => different (same.symm.trans legacyId.symm)
    have parsed : [rsa.parsed] ++ (keys.filter fun key => key.unexpired later &&
        key.keyId != rsa.keyId).map LocalActorKey.parsed =
          (rsa :: (keys.filter (·.unexpired later)).filter (·.keyId != rsa.keyId)).map
            LocalActorKey.parsed := by
      rw [List.filter_filter]
      simp [Bool.and_comm]
    have alive : rsa ∈ keys.filter (·.unexpired later) :=
      List.mem_filter.mpr ⟨published, by simp [LocalActorKey.unexpired, permanent]⟩
    have perm := (cons_filter_perm (unique.sublist (List.filter_sublist.map _)) alive).map
      LocalActorKey.parsed
    refine ⟨_, ?_, perm⟩
    have bounded : (rsa :: (keys.filter (·.unexpired later)).filter
        (·.keyId != rsa.keyId)).length ≤ 10 := by
      have length := perm.length_eq
      simp only [List.length_map] at length
      rw [length]
      exact (List.length_filter_le _ _).trans few
    have counted : decide (document.assertionMethod.length ≤ 10) = true := by
      rw [count]
      simpa using few
    rw [List.length_cons] at bounded
    simp only [actorKeys, counted, ensure_true, ok_bind, first, loop, parsed, List.map_cons,
      List.length_cons, List.length_map, bounded, decide_true, List.isEmpty_cons, Bool.not_false]
    rfl
  · intro many
    have refused : decide (document.assertionMethod.length ≤ 10) = false := by
      rw [count]
      simpa using many
    simp only [actorKeys, refused]
    rfl

end

/-!
## Storing keys
-/

section

variable {codec : Codec} {encoder : Encoder} {rows next : List LocalActorKey}
  {account : LocalAccount} {now : Int} {generated : GeneratedKey}

/-- A key as it is generated: active, named, and in the form of its algorithm. -/
structure Fresh (codec : Codec) (key : LocalActorKey) : Prop where
  named : key.keyId ≠ ""
  active : key.retiringAt = none
  permanent : key.expiresAt = none
  rsa : key.algorithm = .rsaPkcs1Sha256 → codec.rsaIsPkcs1 key.publicKey = true
  ed25519 : key.algorithm = .ed25519 → key.publicKey.length = 32

theorem create_ok {key : LocalActorKey} (success : createLocalActorKey rows key = .ok next) :
    next = rows ++ [key] ∧ (∀ row ∈ rows, row.id ≠ key.id) ∧
      (∀ row ∈ rows, row.keyId ≠ key.keyId) ∧
      ∀ value, activeAlgorithm key = some value → ∀ row ∈ rows, activeAlgorithm row ≠ some value := by
  obtain ⟨freshId, success⟩ := guard_ok success
  obtain ⟨freshKeyId, success⟩ := guard_ok success
  obtain ⟨alone, success⟩ := guard_ok success
  cases success
  refine ⟨rfl, by simpa using freshId, by simpa using freshKeyId, ?_⟩
  intro value own row member same
  refine alone ?_
  rw [own, Option.isSome_some, Bool.true_and, List.any_eq_true]
  exact ⟨row, member, by simp [same]⟩

theorem KeysValid.create {key : LocalActorKey} (valid : KeysValid codec rows)
    (fresh : Fresh codec key) (success : createLocalActorKey rows key = .ok next) :
    KeysValid codec next := by
  obtain ⟨rfl, freshId, freshKeyId, alone⟩ := create_ok success
  have either : ∀ {property : LocalActorKey → Prop}, (∀ row ∈ rows, property row) → property key →
      ∀ row ∈ rows ++ [key], property row := by
    intro property old new row member
    rcases List.mem_append.mp member with earlier | added
    · exact old row earlier
    · exact List.mem_singleton.mp added ▸ new
  refine ⟨?_, ?_, either valid.named fresh.named, valid.active.insert alone,
    either valid.retiring (by simp [fresh.active, fresh.permanent]),
    either valid.dated (by simp [fresh.permanent]), either valid.rsa fresh.rsa,
    either valid.ed25519 fresh.ed25519⟩
  · rw [List.map_append, List.nodup_append]
    refine ⟨valid.ids, List.nodup_singleton _, ?_⟩
    intro first firstMember second secondMember
    obtain ⟨row, member, rfl⟩ := List.mem_map.mp firstMember
    rw [List.mem_singleton.mp secondMember]
    exact freshId row member
  · rw [List.map_append, List.nodup_append]
    refine ⟨valid.keyIds, List.nodup_singleton _, ?_⟩
    intro first firstMember second secondMember
    obtain ⟨row, member, rfl⟩ := List.mem_map.mp firstMember
    rw [List.mem_singleton.mp secondMember]
    exact freshKeyId row member

private theorem KeysValid.rename {id : Nat} {keyId : String} (valid : KeysValid codec rows)
    (named : keyId ≠ "") (success : updateLocalActorKeyId rows id keyId = .ok next) :
    KeysValid codec next := by
  obtain ⟨free, success⟩ := guard_ok success
  cases success
  have either : ∀ {property : LocalActorKey → Prop}, (∀ row ∈ rows, property row) →
      (∀ row ∈ rows, property row → property { row with keyId := keyId }) →
      ∀ row ∈ Table.updateWhere (fun row => row.id == id)
        (fun row => { row with keyId := keyId }) rows, property row := by
    intro property old change row member
    rcases Table.mem_updateWhere.mp member with ⟨kept, _⟩ | ⟨before, known, _, rfl⟩
    · exact old row kept
    · exact change before known (old before known)
  refine ⟨?_, ?_, either valid.named fun _ _ _ => named,
    valid.active.updateWhere fun _ _ _ => .inl rfl, either valid.retiring fun _ _ same => same,
    either valid.dated fun _ _ same => same, either valid.rsa fun _ _ same => same,
    either valid.ed25519 fun _ _ same => same⟩
  · rw [Table.map_updateWhere (by intros; rfl)]
    exact valid.ids
  · have distinct : rows.Nodup := List.Nodup.of_map _ valid.ids
    rw [Table.updateWhere, List.map_map]
    refine List.Nodup.map_on ?_ distinct
    intro left leftMember right rightMember same
    have others : ∀ row ∈ rows, row.keyId = keyId → row.id = id := by
      intro row member taken
      by_contra different
      exact free (List.any_eq_true.mpr ⟨row, member, by simp [taken, different]⟩)
    have ids := fun sameId => List.inj_on_of_nodup_map valid.ids leftMember rightMember sameId
    have keyIds := fun sameId => List.inj_on_of_nodup_map valid.keyIds leftMember rightMember sameId
    by_cases leftOwn : left.id = id
    · by_cases rightOwn : right.id = id
      · exact ids (leftOwn.trans rightOwn.symm)
      · simp only [Function.comp_apply, leftOwn, rightOwn, if_true, beq_iff_eq, if_false] at same
        exact absurd (others right rightMember same.symm) rightOwn
    · by_cases rightOwn : right.id = id
      · simp only [Function.comp_apply, leftOwn, rightOwn, if_true, beq_iff_eq, if_false] at same
        exact absurd (others left leftMember same) leftOwn
      · simp only [Function.comp_apply, leftOwn, rightOwn, beq_iff_eq, if_false] at same
        exact keyIds same

private theorem append_ne_empty (start : String) {suffix : String} (some_ : suffix ≠ "") :
    start ++ suffix ≠ "" := by
  intro empty
  have parts : start = "" ∧ suffix = "" := by simpa using empty
  exact some_ parts.2

private theorem findActive_create {key : LocalActorKey} {accountId : AccountId}
    {algorithm : ActorKeyAlgorithm} (success : createLocalActorKey rows key = .ok next)
    {found : LocalActorKey} (old : findActiveLocalActorKey rows accountId algorithm = some found) :
    findActiveLocalActorKey next accountId algorithm = some found := by
  rw [(create_ok success).1, findActiveLocalActorKey, List.find?_append]
  rw [findActiveLocalActorKey] at old
  rw [old]
  rfl

private theorem mainActorKey_fresh (form : codec.rsaIsPkcs1 generated.publicKey = true) :
    Fresh codec (mainActorKey encoder account now generated) where
  named := append_ne_empty _ (by decide)
  active := rfl
  permanent := rfl
  rsa := fun _ => form
  ed25519 := fun other => nomatch other

private theorem ed25519ActorKey_fresh (form : generated.publicKey.length = 32) :
    Fresh codec (ed25519ActorKey encoder account now generated) where
  named := by
    intro empty
    have parts : (actorUrl encoder account ++ "#ed25519-") ++ generated.suffix = "" := empty
    simp at parts
  active := rfl
  permanent := rfl
  rsa := fun other => nomatch other
  ed25519 := fun _ => form

theorem ensureActorKey_ok {pem : String} (valid : KeysValid codec rows)
    (form : codec.rsaIsPkcs1 generated.publicKey = true)
    (success : ensureActorKey codec encoder rows account now generated = .ok (next, pem)) :
    KeysValid codec next ∧ ∃ rsa, findActiveLocalActorKey next account.id .rsaPkcs1Sha256 =
      some rsa ∧ pem = codec.rsaToPem rsa.publicKey := by
  have named : mainKeyId encoder account ≠ "" := append_ne_empty _ (by decide)
  unfold ensureActorKey at success
  split at success
  next key found =>
    have pemOf : ∀ {der result}, rsaPublicKeyPem codec der = .ok result →
        result = codec.rsaToPem der := by
      intro der result printed
      unfold rsaPublicKeyPem at printed
      split at printed
      · cases printed
        rfl
      · cases printed
    split at success
    · obtain ⟨renamed, updated, success⟩ := bind_ok success
      obtain ⟨result, printed, success⟩ := bind_ok success
      cases success
      refine ⟨valid.rename named updated, { key with keyId := mainKeyId encoder account }, ?_,
        pemOf printed⟩
      obtain ⟨_, updated⟩ := guard_ok updated
      cases updated
      rw [findActiveLocalActorKey, Table.find?_updateWhere (by intros; rfl)]
      rw [findActiveLocalActorKey] at found
      simp [found]
    · obtain ⟨kept, same, success⟩ := bind_ok success
      cases same
      obtain ⟨result, printed, success⟩ := bind_ok success
      cases success
      exact ⟨valid, key, found, pemOf printed⟩
  next missing =>
    obtain ⟨created, inserted, success⟩ := bind_ok success
    cases success
    refine ⟨valid.create (mainActorKey_fresh form) inserted,
      mainActorKey encoder account now generated, ?_, rfl⟩
    rw [findActiveLocalActorKey] at missing
    rw [(create_ok inserted).1, findActiveLocalActorKey, List.find?_append, missing]
    simp [activeAlgorithm, mainActorKey]

theorem ensureEd25519ActorKey_ok (valid : KeysValid codec rows)
    (form : generated.publicKey.length = 32)
    (success : ensureEd25519ActorKey encoder rows account now generated = .ok next) :
    KeysValid codec next ∧ ∀ {accountId algorithm key},
      findActiveLocalActorKey rows accountId algorithm = some key →
        findActiveLocalActorKey next accountId algorithm = some key := by
  unfold ensureEd25519ActorKey at success
  split at success
  · cases success
    exact ⟨valid, id⟩
  · refine ⟨valid.create (ed25519ActorKey_fresh form) success, findActive_create success⟩

end

theorem actor_ok {codec : Codec} {encoder : Encoder} {rows stored : List LocalActorKey}
    (valid : KeysValid codec rows) {account : LocalAccount} {now : Int}
    {generated : GeneratedKeys} (form : GeneratedValid codec generated) {document : Actor}
    (success : actor codec encoder rows account now generated = .ok (stored, document)) :
    KeysValid codec stored ∧ ∃ rsa, findActiveLocalActorKey stored account.id .rsaPkcs1Sha256 =
      some rsa ∧ document = actorDocument encoder account (codec.rsaToPem rsa.publicKey)
        (publishableLocalActorKeys stored account.id now) := by
  obtain ⟨⟨ensured, pem⟩, main, success⟩ := bind_ok success
  obtain ⟨seeded, second, success⟩ := bind_ok success
  cases success
  obtain ⟨ensuredValid, rsa, found, same⟩ := ensureActorKey_ok valid form.rsa main
  obtain ⟨seededValid, keeps⟩ := ensureEd25519ActorKey_ok ensuredValid form.ed25519 second
  exact ⟨seededValid, rsa, keeps found, same ▸ rfl⟩

/-- Whatever keys a local actor has, another server reads its document back: exactly the
published keys that have not expired meanwhile, each with its identifier, algorithm, bytes and
expiry. Only a document with more than ten keys is refused. -/
theorem published_keys_parse_back {codec : Codec} {encoder : Encoder}
    (inverse : Inverse codec encoder) (resolver : Resolver) (web : Web)
    {rows stored : List LocalActorKey} (valid : KeysValid codec rows) {account : LocalAccount}
    {now : Int} {generated : GeneratedKeys} (form : GeneratedValid codec generated)
    {document : Actor} (success : actor codec encoder rows account now generated =
      .ok (stored, document)) (later : Int) :
    let keys := publishableLocalActorKeys stored account.id now
    (keys.length ≤ 10 → ∃ parsed,
      actorKeys codec resolver web document.decoded later = .ok parsed ∧
        parsed.Perm ((keys.filter (·.unexpired later)).map LocalActorKey.parsed)) ∧
    (10 < keys.length → actorKeys codec resolver web document.decoded later =
      .error (invalid "remote actor advertises too many keys")) := by
  obtain ⟨storedValid, rsa, found, rfl⟩ := actor_ok valid form success
  exact actorDocument_parses_back inverse storedValid found later

namespace Sample

def der : List UInt8 :=
  [48, 24, 2, 17, 0, 201, 170, 240, 158, 145, 5, 101, 254, 44, 136, 174, 230, 163, 239, 172, 35, 2,
    3, 1, 0, 1]

def pem : String :=
  "-----BEGIN PUBLIC KEY-----\nMCwwDQYJKoZIhvcNAQEBBQADGwAwGAIRAMmq8J6RBWX+LIiu5qPvrCMCAwEAAQ==\n" ++
    "-----END PUBLIC KEY-----\n"

def october : Int := 1790812800000000

def octoberText : String := "2026-10-01T00:00:00Z"

def unary (time : Int) : String := String.ofList (List.replicate time.toNat 'x')

def codec : Codec where
  parseUrl _ := none
  urlText _ := ""
  parseRfc3339 text := if text = octoberText then some october else some text.toList.length
  rsaFromPem text := if text = pem then some der else none
  rsaIsPkcs1 bytes := bytes == der
  rsaToPem bytes := if bytes = der then pem else ""
  multibase text :=
    match text.toList with
    | 'z' :: digits => (Base58.decode digits).map fun bytes => (.base58Btc, bytes)
    | _ => none

def encoder : Encoder where
  publicUrl path := "https://roosty.test/" ++ path
  base58Btc bytes := String.ofList ('z' :: Base58.encode bytes)
  formatRfc3339 time := if time = october then some octoberText else some (unary time)
  formatTimestamp _ := "2026-09-01T00:00:00.000Z"

private theorem unary_ne (time : Int) : unary time ≠ octoberText := by
  intro same
  have letters := congrArg (fun text => text.toList.head?) same
  rw [unary, String.toList_ofList] at letters
  cases count : time.toNat with
  | zero =>
      rw [count] at letters
      cases letters
  | succ count' =>
      rw [count, List.replicate_succ] at letters
      cases letters

theorem inverse : Inverse codec encoder where
  multibase := by
    intro bytes
    change (match (String.ofList ('z' :: Base58.encode bytes)).toList with
      | 'z' :: digits => (Base58.decode digits).map fun bytes => (MultibaseBase.base58Btc, bytes)
      | _ => none) = _
    rw [String.toList_ofList]
    change (Base58.decode (Base58.encode bytes)).map _ = _
    rw [Base58.decode_encode]
    rfl
  rsa := by
    intro bytes form
    have same : bytes = der := by simpa [codec] using form
    change (if (if bytes = der then pem else "") = pem then some der else none) = some bytes
    rw [if_pos same, if_pos rfl, same]
  rfc3339 := by
    intro time lower _
    by_cases own : time = october
    · subst own
      refine ⟨octoberText, ?_, ?_⟩
      · change (if october = october then some octoberText else some (unary october)) = _
        rw [if_pos rfl]
      · change (if octoberText = octoberText then some october
          else some (octoberText.toList.length : Int)) = _
        rw [if_pos rfl]
    · refine ⟨unary time, if_neg own, (if_neg (unary_ne time)).trans ?_⟩
      rw [unary, String.toList_ofList, List.length_replicate, Int.toNat_of_nonneg lower]

def resolver : Resolver where
  federationDomainIsAllowed _ := true
  federationDomainIsSuspended _ := false
  parseIp _ := none
  lookupHost _ _ := none

def web : Web where
  actor _ := .error (invalid "not found")
  key _ := .error (invalid "not found")
  webFinger _ _ := .error (invalid "not found")

def account : LocalAccount :=
  ⟨⟨1⟩, "alice", "Alice", "", false, true, true, false, 0⟩

def active (id : Nat) (name : String) (algorithm : ActorKeyAlgorithm) (publicKey : List UInt8) :
    LocalActorKey :=
  ⟨id, ⟨1⟩, "https://roosty.test/users/alice#" ++ name, algorithm, publicKey, 5, none, none⟩

def retiring (id : Nat) : LocalActorKey :=
  ⟨id, ⟨1⟩, String.ofList (List.replicate (id + 1) 'k'), .ed25519, List.replicate 32 1, 0, some 5,
    some october⟩

def rows (retired : Nat) : List LocalActorKey :=
  (List.range retired).map retiring ++ [active 100 "main-key" .rsaPkcs1Sha256 der,
    active 101 "ed25519-b" .ed25519 (List.replicate 32 2)]

def generated : GeneratedKeys := ⟨⟨0, "", der⟩, ⟨0, "", List.replicate 32 3⟩⟩

private theorem rows_valid {retired : Nat}
    (ids : ((rows retired).map LocalActorKey.id).Nodup)
    (keyIds : ((rows retired).map LocalActorKey.keyId).Nodup)
    (indexed : Table.UniqueOn activeAlgorithm (rows retired)) : KeysValid codec (rows retired) := by
  have either : ∀ {property : LocalActorKey → Prop}, (∀ id, property (retiring id)) →
      property (active 100 "main-key" .rsaPkcs1Sha256 der) →
      property (active 101 "ed25519-b" .ed25519 (List.replicate 32 2)) →
      ∀ row ∈ rows retired, property row := by
    intro property old rsa ed25519 row member
    rcases List.mem_append.mp member with earlier | current
    · obtain ⟨id, _, rfl⟩ := List.mem_map.mp earlier
      exact old id
    · rcases List.mem_cons.mp current with rfl | last
      · exact rsa
      · exact List.mem_singleton.mp last ▸ ed25519
  refine ⟨ids, keyIds, either (fun id empty => ?_) (by decide) (by decide), indexed,
    either (fun _ => rfl) rfl rfl, either ?_ nofun nofun, either nofun (fun _ => ?_) nofun,
    either (fun _ _ => rfl) nofun (fun _ => rfl)⟩
  · have letters := congrArg String.toList empty
    rw [retiring, String.toList_ofList] at letters
    cases letters
  · intro _ expires own
    cases own
    decide
  · decide

def document (retired : Nat) : Actor :=
  actorDocument encoder account pem (publishableLocalActorKeys (rows retired) account.id 10)

end Sample

open Sample in
theorem three_keys_parse_back : ∃ parsed,
    actorKeys codec resolver web (document 1).decoded 20 = .ok parsed ∧
      parsed.Perm ((publishableLocalActorKeys (rows 1) account.id 10).map LocalActorKey.parsed) := by
  have valid : KeysValid codec (rows 1) :=
    rows_valid (by decide +kernel) (by decide +kernel) (by decide +kernel)
  have success : actor codec encoder (rows 1) account 10 generated = .ok (rows 1, document 1) := by
    decide +kernel
  exact (published_keys_parse_back inverse resolver web valid ⟨by decide, by decide⟩ success 20).1
    (by decide +kernel)

open Sample in
/-- A document with eleven keys is refused. -/
theorem eleven_keys_refused : Inverse codec encoder ∧ KeysValid codec (rows 9) ∧
    GeneratedValid codec generated ∧
    actor codec encoder (rows 9) account 10 generated = .ok (rows 9, document 9) ∧
    (publishableLocalActorKeys (rows 9) account.id 10).length = 11 ∧
    actorKeys codec resolver web (document 9).decoded 10 =
      .error (invalid "remote actor advertises too many keys") :=
  ⟨inverse, rows_valid (by decide +kernel) (by decide +kernel) (by decide +kernel),
    ⟨by decide, by decide⟩, by decide +kernel, by decide +kernel, by decide +kernel⟩

end Roosty.Federation.ActorKeys
