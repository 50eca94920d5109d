import Roosty.Federation.Integrity

/-!
# Signing and tampering

A signed document is accepted with the key of its signature, and two documents with one
proof value say the same, outside the contexts that follow those of the proof.
-/

set_option autoImplicit false

namespace Roosty.Federation.Integrity

open Library Json
open Discovery (MultibaseBase)

/-- Ideal libraries. Hashes have 32 bytes, so that the absence of collisions is stated for
the texts that are hashed. -/
structure Ideal (primitives : Primitives) : Prop where
  dates : ∀ created text, primitives.formatRfc3339 created = some text →
    (primitives.parseRfc3339 text).isSome = true
  hashes : ∀ text, (primitives.sha256 text).length = 32
  multibase : ∀ bytes,
    primitives.multibase (primitives.encodeBase58Btc bytes) = some (.base58Btc, bytes)
  signatures : ∀ key message, (primitives.sign key message).length = 64
  keys : ∀ key, (primitives.verifyingKey key).length = 32 ∧
    primitives.isVerifyingKey (primitives.verifyingKey key) = true
  complete : ∀ key message,
    primitives.verifyStrict (primitives.verifyingKey key) message (primitives.sign key message) =
      true
  sound : ∀ key signature first second, first.length = 64 → second.length = 64 →
    primitives.verifyStrict key first signature = true →
      primitives.verifyStrict key second signature = true → first = second

def Signable (document : Json) : Prop :=
  match document.get? "@context" with
  | none => True
  | some (.string _) => True
  | some (.array _) => True
  | _ => False

def listed : Option Json → List Json
  | none => []
  | some (.array values) => values
  | some value => [value]

structure SignedFrom (primitives : Primitives) (document : Json) (verificationMethod : String)
    (signingKey : List UInt8) (signed : Json) : Prop where
  wellFormed : signed.WellFormed
  signable : Signable signed
  kept : ∀ name, name ≠ "@context" → name ≠ "proof" → name ≠ "signature" →
    signed.get? name = document.get? name
  unsigned : signed.get? "signature" = none
  appended : .string dataIntegrityContext ∉ listed (document.get? "@context") →
    listed (signed.get? "@context") =
      listed (document.get? "@context") ++ [.string dataIntegrityContext]
  unchanged : .string dataIntegrityContext ∈ listed (document.get? "@context") →
    signed.get? "@context" = document.get? "@context"
  repeated : ∀ method created key again, sign primitives signed method created key = .ok again →
    again.get? "@context" = signed.get? "@context"
  accepted : ∀ now, ∃ prepared, prepare primitives signed now = .ok prepared ∧
    prepared.verificationMethod = verificationMethod ∧
      verify primitives signed prepared (primitives.verifyingKey signingKey) = .ok ()

def bare (document : Json) : Json :=
  .object (removeMember "@context"
    (removeMember "signature" (removeMember "proof" (document.asObject?.getD []))))

def Continues (own : Json) (document : Option Json) : Prop :=
  ∃ front shared rest, contexts (some own) = .ok front ∧ contexts document = .ok (shared ++ rest) ∧
    List.Forall₂ (fun left right => valueEq left right = true) front shared

def SameContexts (sameNumber : Number → Number → Prop) (first second : Json)
    (firstOwn secondOwn : Option Json) : Prop :=
  match firstOwn, secondOwn with
  | none, none => Option.Rel (Same sameNumber) (first.get? "@context") (second.get? "@context")
  | some own, some other => Same sameNumber own other ∧ Continues own (first.get? "@context") ∧
      Continues other (second.get? "@context")
  | _, _ => False

def hashedTexts (primitives : Primitives) (document : Json) (proof : IntegrityProof) :
    List (List UInt8) :=
  [proofBytes primitives proof, documentBytes primitives (document.asObject?.getD []) proof]

/-!
## Proofs as JSON
-/

section

variable {proof : IntegrityProof}

private theorem fromJson_toJson (present : proof.context ≠ some .null) :
    IntegrityProof.fromJson proof.toJson = some proof := by
  obtain ⟨context, type, suite, created, expires, method, purpose, value⟩ := proof
  cases type
  cases suite
  cases purpose
  cases context with
  | none => cases expires <;> cases value <;> rfl
  | some context =>
      cases context with
      | null => exact absurd rfl present
      | _ => cases expires <;> cases value <;> rfl

private theorem proofConfig_object (proof : IntegrityProof) :
    proofConfig proof = { proof with proofValue := none }.toJson := by
  obtain ⟨context, type, suite, created, expires, method, purpose, value⟩ := proof
  cases context <;> cases expires <;> cases value <;> rfl

private theorem toJson_wellFormed (valid : ∀ context, proof.context = some context →
    context.WellFormed) : proof.toJson.WellFormed := by
  obtain ⟨context, type, suite, created, expires, method, purpose, value⟩ := proof
  have strings : ∀ text, (Json.string text).WellFormed := .string
  unfold IntegrityProof.toJson
  refine .object ?_ ?_
  · cases context <;> cases expires <;> cases value <;> simp [optionalMember]
  · cases context with
    | none => cases expires <;> cases value <;> simp [optionalMember, strings]
    | some context =>
        have given := valid context rfl
        cases expires <;> cases value <;> simp [optionalMember, strings, given]

private theorem member?_context_toJson (proof : IntegrityProof) :
    ∃ members, proof.toJson = .object members ∧ member? "@context" members = proof.context := by
  refine ⟨_, rfl, ?_⟩
  obtain ⟨context, type, suite, created, expires, method, purpose, value⟩ := proof
  cases context <;> cases expires <;> cases value <;> rfl

end

/-!
## Signing
-/

section

variable {context : Option Json} {added : Json}

private theorem addedContext_total (shape : match context with
    | none => True
    | some (.string _) => True
    | some (.array _) => True
    | _ => False) : ∃ added, addedContext context = .ok added := by
  cases context with
  | none => exact ⟨_, rfl⟩
  | some context =>
      cases context with
      | string text =>
          dsimp only [addedContext]
          split
          · exact ⟨_, rfl⟩
          · exact ⟨_, rfl⟩
      | array values =>
          dsimp only [addedContext]
          split
          · exact ⟨_, rfl⟩
          · exact ⟨_, rfl⟩
      | _ => exact shape.elim

private theorem any_dataIntegrityContext (values : List Json) :
    (values.any fun value => value.asStr? == some dataIntegrityContext) = true ↔
      .string dataIntegrityContext ∈ values := by
  rw [List.any_eq_true]
  constructor
  · intro ⟨value, member, named⟩
    cases value with
    | string text =>
        have same : text = dataIntegrityContext := by simpa [asStr?] using named
        rwa [same] at member
    | _ => simp [asStr?] at named
  · intro member
    exact ⟨_, member, by simp [asStr?]⟩

/-- The added context: a string or an array that lists the integrity context. -/
private structure Extended (context : Option Json) (added : Json) : Prop where
  shape : (∃ text, added = .string text) ∨ ∃ values, added = .array values
  appended : .string dataIntegrityContext ∉ listed context →
    listed (some added) = listed context ++ [.string dataIntegrityContext]
  unchanged : .string dataIntegrityContext ∈ listed context → some added = context
  stable : addedContext (some added) = .ok added

private theorem stable_of_listed {values : List Json}
    (present : .string dataIntegrityContext ∈ values) :
    addedContext (some (.array values)) = .ok (.array values) := by
  dsimp only [addedContext]
  rw [if_pos ((any_dataIntegrityContext values).mpr present)]

private theorem addedContext_extends (success : addedContext context = .ok added) :
    Extended context added := by
  cases context with
  | none =>
      cases success
      exact ⟨.inr ⟨_, rfl⟩, fun _ => rfl, fun present => absurd present (by simp [listed]),
        stable_of_listed List.mem_cons_self⟩
  | some context =>
      cases context with
      | string text =>
          dsimp only [addedContext] at success
          split at success
          next same =>
            cases success
            refine ⟨.inl ⟨text, rfl⟩, fun absent => ?_, fun _ => rfl, ?_⟩
            · exact absurd (show Json.string dataIntegrityContext ∈ [.string text] by simp [same])
                absent
            · dsimp only [addedContext]
              rw [if_pos same]
          next other =>
            cases success
            refine ⟨.inr ⟨_, rfl⟩, fun _ => rfl, fun present => ?_, stable_of_listed (by simp)⟩
            have same : dataIntegrityContext = text := by simpa [listed] using present
            exact absurd same.symm other
      | array values =>
          dsimp only [addedContext] at success
          split at success
          next present =>
            cases success
            have member := (any_dataIntegrityContext values).mp present
            exact ⟨.inr ⟨_, rfl⟩, fun absent => absurd member absent, fun _ => rfl,
              stable_of_listed member⟩
          next absent =>
            cases success
            exact ⟨.inr ⟨_, rfl⟩, fun _ => rfl,
              fun present => absurd ((any_dataIntegrityContext values).mpr present) absent,
              stable_of_listed (by simp)⟩
      | _ => cases success

private theorem Extended.wellFormed (extended : Extended context added)
    (valid : ∀ value ∈ listed context, value.WellFormed) : added.WellFormed := by
  rcases extended.shape with ⟨text, rfl⟩ | ⟨values, rfl⟩
  · exact .string text
  · refine .array ?_
    by_cases present : .string dataIntegrityContext ∈ listed context
    · rw [← extended.unchanged present] at valid
      exact valid
    · have whole : values = listed context ++ [.string dataIntegrityContext] :=
        extended.appended present
      intro value member
      rw [whole] at member
      rcases List.mem_append.mp member with old | new
      · exact valid value old
      · rw [List.mem_singleton.mp new]
        exact .string _

private theorem isContextPrefix_refl {values : List Json}
    (valid : ∀ value ∈ values, value.WellFormed) : isContextPrefix values values = true := by
  induction values with
  | nil => rfl
  | cons value values ih =>
      rw [isContextPrefix, valueEq_refl (valid value List.mem_cons_self), Bool.true_and]
      exact ih fun other member => valid other (List.mem_cons_of_mem _ member)

private theorem Extended.validates (extended : Extended context added)
    (valid : added.WellFormed) : validateContext (some added) (some added) = .ok () := by
  rcases extended.shape with ⟨text, rfl⟩ | ⟨values, rfl⟩
  · simp [validateContext, contexts, isContextPrefix, valueEq]
  · cases valid with
    | array each => simp [validateContext, contexts, isContextPrefix_refl each]

end

section

variable {primitives : Primitives} {members : List (String × Json)}

private theorem listed_wellFormed {context : Option Json}
    (valid : ∀ value, context = some value → value.WellFormed) :
    ∀ value ∈ listed context, value.WellFormed := by
  cases context with
  | none => simp [listed]
  | some context =>
      have whole := valid context rfl
      cases whole with
      | array each => exact each
      | null => simpa [listed] using Json.WellFormed.null
      | bool value => simpa [listed] using Json.WellFormed.bool value
      | number value => simpa [listed] using Json.WellFormed.number value
      | string value => simpa [listed] using Json.WellFormed.string value
      | object distinct each => simpa [listed] using Json.WellFormed.object distinct each

private theorem documentBytes_insert_proof (proof : IntegrityProof) (value : Json) :
    documentBytes primitives (insertMember "proof" value members) proof =
      documentBytes primitives members proof := by
  simp [documentBytes, unsecured]

private theorem hashData_sign (proof : IntegrityProof) (proofValue : Option String)
    (value : Json) :
    hashData primitives (.object (insertMember "proof" value members))
        { proof with proofValue := proofValue } =
      hashData primitives (.object members) { proof with proofValue := none } := by
  have config : proofBytes primitives { proof with proofValue := proofValue } =
      proofBytes primitives { proof with proofValue := none } := by
    simp only [proofBytes, proofConfig_object]
  have document : documentBytes primitives members { proof with proofValue := proofValue } =
      documentBytes primitives members { proof with proofValue := none } := rfl
  simp only [hashData, asObject?, okOr_some, ok_bind]
  rw [config, documentBytes_insert_proof, document]

private def unsignedProof (context : Json) (created verificationMethod : String) : IntegrityProof :=
  { context := some context, proofType := .dataIntegrityProof, cryptosuite := .eddsaJcs2022,
    created, expires := none, verificationMethod, proofPurpose := .assertionMethod,
    proofValue := none }

private def securedMembers (context : Json) (members : List (String × Json)) :
    List (String × Json) :=
  insertMember "@context" context (removeMember "signature" (removeMember "proof" members))

private theorem member?_removed {name : String} (notProof : name ≠ "proof")
    (notSignature : name ≠ "signature") :
    member? name (removeMember "signature" (removeMember "proof" members)) =
      member? name members := by
  rw [member?_removeMember_of_ne notSignature, member?_removeMember_of_ne notProof]

private def hashBytes (primitives : Primitives) (members : List (String × Json))
    (proof : IntegrityProof) : List UInt8 :=
  primitives.sha256 (proofBytes primitives proof) ++
    primitives.sha256 (documentBytes primitives members proof)

private theorem hashData_object (proof : IntegrityProof) :
    hashData primitives (.object members) proof = .ok (hashBytes primitives members proof) := rfl

private def signedProof (primitives : Primitives) (context : Json) (created method : String)
    (signingKey : List UInt8) (members : List (String × Json)) : IntegrityProof :=
  let proof := unsignedProof context created method
  { proof with proofValue := some (primitives.encodeBase58Btc
      (primitives.sign signingKey (hashBytes primitives (securedMembers context members) proof))) }

private def signedDocument (primitives : Primitives) (context : Json) (created method : String)
    (signingKey : List UInt8) (members : List (String × Json)) : Json :=
  .object (insertMember "proof"
    (signedProof primitives context created method signingKey members).toJson
    (securedMembers context members))

private theorem sign_eq_ok_iff {method : String} {created : Int} {signingKey : List UInt8}
    {signed : Json} :
    sign primitives (.object members) method created signingKey = .ok signed ↔
      ∃ context text, addedContext (member? "@context" members) = .ok context ∧
        primitives.formatRfc3339 created = some text ∧
          signed = signedDocument primitives context text method signingKey members := by
  have kept : member? "@context" (removeMember "signature" (removeMember "proof" members)) =
      member? "@context" members := member?_removed (by decide) (by decide)
  unfold sign addContext
  simp only [asObject?, okOr_some, ok_bind, kept]
  cases addedContext (member? "@context" members) with
  | error error => simp [Bind.bind, Except.bind]
  | ok context =>
      cases primitives.formatRfc3339 created with
      | none => simp [okOr, Bind.bind, Except.bind, pure, Except.pure]
      | some text =>
          simp only [ok_bind, okOr_some, pure, Except.pure, member?_insertMember_self,
            hashData_object, Except.ok.injEq, Option.some.injEq, exists_eq_left', exists_and_left]
          exact eq_comm

private theorem signedDocument_context (context : Json) (created method : String)
    (signingKey : List UInt8) :
    (signedDocument primitives context created method signingKey members).get? "@context" =
      some context := by
  rw [signedDocument, get?_object, member?_insertMember_of_ne (by decide), securedMembers,
    member?_insertMember_self]

private theorem signedDocument_accepted (ideal : Ideal primitives) {context : Json}
    {created : Int} {text : String} {method : String} {signingKey : List UInt8}
    (shown : primitives.formatRfc3339 created = some text) (present : context ≠ .null)
    (validates : validateContext (some context) (some context) = .ok ()) (now : Int) :
    ∃ prepared,
      prepare primitives (signedDocument primitives context text method signingKey members) now =
        .ok prepared ∧ prepared.verificationMethod = method ∧
      verify primitives (signedDocument primitives context text method signingKey members) prepared
        (primitives.verifyingKey signingKey) = .ok () := by
  obtain ⟨date, parsed⟩ := Option.isSome_iff_exists.mp (ideal.dates created text shown)
  have read : IntegrityProof.fromJson
      (signedProof primitives context text method signingKey members).toJson =
        some (signedProof primitives context text method signingKey members) :=
    fromJson_toJson (by simpa [signedProof, unsignedProof] using present)
  refine ⟨⟨method, signedProof primitives context text method signingKey members⟩, ?_, rfl, ?_⟩
  · unfold prepare
    rw [signedDocument_context]
    simp only [signedDocument, get?_object, member?_insertMember_self, okOr_some, ok_bind, read]
    have date : parseDate primitives text = .ok date := by simp [parseDate, parsed]
    simp only [IntegrityProof.toJson, isArray, Bool.not_false, ensure_true, ok_bind, signedProof,
      unsignedProof, date, checkExpires, validates, Option.isSome_some]
    rfl
  · have hashed : hashData primitives
        (signedDocument primitives context text method signingKey members)
        (signedProof primitives context text method signingKey members) =
          .ok (hashBytes primitives (securedMembers context members)
            (unsignedProof context text method)) :=
      hashData_sign (unsignedProof context text method) _ _
    obtain ⟨length, valid⟩ := ideal.keys signingKey
    unfold verify
    simp only [hashed]
    simp [signedProof, ideal.multibase, ideal.signatures, length, valid, ideal.complete]

private theorem sign_completes (ideal : Ideal primitives) {document : Json}
    (object : document = .object members) (valid : document.WellFormed)
    (signable : Signable document) {method : String} {created : Int} {text : String}
    {signingKey : List UInt8} (shown : primitives.formatRfc3339 created = some text) :
    ∃ signed, sign primitives document method created signingKey = .ok signed ∧
      SignedFrom primitives document method signingKey signed := by
  subst object
  have total : ∃ context, addedContext (member? "@context" members) = .ok context :=
    addedContext_total signable
  obtain ⟨context, added⟩ := total
  have extended := addedContext_extends added
  have contextValid := extended.wellFormed
    (listed_wellFormed fun value found => valid.member found)
  have present : context ≠ .null := by
    rcases extended.shape with ⟨text, rfl⟩ | ⟨values, rfl⟩ <;> simp
  refine ⟨signedDocument primitives context text method signingKey members,
    sign_eq_ok_iff.mpr ⟨context, text, added, shown, rfl⟩, ?_⟩
  have own : (signedDocument primitives context text method signingKey members).get? "@context" =
      some context := signedDocument_context context text method signingKey
  constructor
  case wellFormed =>
    refine (valid.removeMember.removeMember.insertMember contextValid).insertMember ?_
    refine toJson_wellFormed ?_
    intro other same
    cases same
    exact contextValid
  case signable =>
    unfold Signable
    rw [own]
    rcases extended.shape with ⟨text, rfl⟩ | ⟨values, rfl⟩ <;> trivial
  case kept =>
    intro name notContext notProof notSignature
    rw [signedDocument, get?_object, member?_insertMember_of_ne notProof, securedMembers,
      member?_insertMember_of_ne notContext, member?_removed notProof notSignature]
    rfl
  case unsigned =>
    rw [signedDocument, get?_object, member?_insertMember_of_ne (by decide), securedMembers,
      member?_insertMember_of_ne (by decide), member?_removeMember_self]
  case appended =>
    rw [own]
    exact extended.appended
  case unchanged =>
    rw [own]
    exact extended.unchanged
  case repeated =>
    intro method created key again success
    obtain ⟨second, _, addedAgain, _, rfl⟩ := sign_eq_ok_iff.mp success
    rw [signedDocument_context, own]
    change addedContext ((signedDocument primitives context text _ signingKey members).get?
      "@context") = .ok second at addedAgain
    rw [own, extended.stable] at addedAgain
    cases addedAgain
    rfl
  case accepted => exact signedDocument_accepted ideal shown present (extended.validates contextValid)

end

/-!
## Tampering
-/

section

variable {primitives : Primitives} {document : Json} {prepared : PreparedProof}

private theorem prepare_ok {now : Int} (accepted : prepare primitives document now = .ok prepared) :
    ∃ members raw, document = .object members ∧ member? "proof" members = some raw ∧
      IntegrityProof.fromJson raw = some prepared.proof ∧
      validateContext (document.get? "@context") prepared.proof.context = .ok () := by
  unfold prepare at accepted
  obtain ⟨raw, found, accepted⟩ := bind_ok accepted
  obtain ⟨_, _, accepted⟩ := bind_ok accepted
  obtain ⟨proof, read, accepted⟩ := bind_ok accepted
  obtain ⟨_, _, accepted⟩ := bind_ok accepted
  obtain ⟨_, _, accepted⟩ := bind_ok accepted
  obtain ⟨_, validates, accepted⟩ := bind_ok accepted
  obtain ⟨_, _, accepted⟩ := bind_ok accepted
  cases accepted
  have found := okOr_ok found
  cases document with
  | object members => exact ⟨members, raw, rfl, found, okOr_ok read, validates⟩
  | _ => cases found

private theorem verify_ok {members : List (String × Json)} {publicKey : List UInt8}
    (accepted : verify primitives (.object members) prepared publicKey = .ok ()) :
    ∃ value base signature, prepared.proof.proofValue = some value ∧
      primitives.multibase value = some (base, signature) ∧
      primitives.verifyStrict publicKey (hashBytes primitives members prepared.proof) signature =
        true := by
  unfold verify at accepted
  obtain ⟨value, present, accepted⟩ := bind_ok accepted
  obtain ⟨⟨base, signature⟩, decoded, accepted⟩ := bind_ok accepted
  obtain ⟨_, _, accepted⟩ := bind_ok accepted
  obtain ⟨_, _, accepted⟩ := bind_ok accepted
  rw [hashData_object, ok_bind] at accepted
  exact ⟨value, base, signature, okOr_ok present, okOr_ok decoded, ensure_ok accepted⟩

private theorem fromJson_context {raw : Json} {proof : IntegrityProof}
    (read : IntegrityProof.fromJson raw = some proof) (valid : raw.WellFormed) :
    ∀ context, proof.context = some context → context.WellFormed := by
  cases raw with
  | object members =>
      simp only [IntegrityProof.fromJson] at read
      split at read
      · cases read
      simp only [Option.bind_eq_bind, Option.bind_eq_some_iff, Option.pure_def] at read
      obtain ⟨context, field, _, _, _, _, _, _, _, _, _, _, _, _, _, _, same⟩ := read
      cases same
      intro given present
      cases found : member? "@context" members with
      | none =>
          rw [found] at field
          cases field
          cases present
      | some value =>
          rw [found] at field
          have same : value = given := by
            cases value with
            | null =>
                cases field
                cases present
            | _ =>
                cases field
                cases present
                rfl
          rw [← same]
          exact valid.member found
  | _ => cases read

private theorem isContextPrefix_split {front whole : List Json}
    (isPrefix : isContextPrefix front whole = true) :
    ∃ shared rest, whole = shared ++ rest ∧
      List.Forall₂ (fun left right => valueEq left right = true) front shared := by
  induction front generalizing whole with
  | nil => exact ⟨[], whole, rfl, .nil⟩
  | cons left front ih =>
      cases whole with
      | nil => cases isPrefix
      | cons right whole =>
          simp only [isContextPrefix, Bool.and_eq_true] at isPrefix
          obtain ⟨shared, rest, rfl, each⟩ := ih isPrefix.2
          exact ⟨right :: shared, rest, rfl, .cons isPrefix.1 each⟩

private theorem validateContext_continues {own : Json} {context : Option Json}
    (validates : validateContext context (some own) = .ok ()) : Continues own context := by
  obtain ⟨whole, document, validates⟩ := bind_ok validates
  obtain ⟨front, proof, validates⟩ := bind_ok validates
  obtain ⟨shared, rest, rfl, each⟩ := isContextPrefix_split (ensure_ok validates)
  exact ⟨front, shared, rest, proof, document, each⟩

private theorem unsecured_wellFormed {members : List (String × Json)} {proof : IntegrityProof}
    (valid : (Json.object members).WellFormed)
    (own : ∀ context, proof.context = some context → context.WellFormed) :
    (Json.object (unsecured members proof)).WellFormed := by
  unfold unsecured
  cases given : proof.context with
  | none => exact valid.removeMember.removeMember
  | some context => exact valid.removeMember.removeMember.insertMember (own context given)

private theorem same_of_hashBytes (ideal : Ideal primitives) {first second : List (String × Json)}
    {firstProof secondProof : IntegrityProof}
    (equal : hashBytes primitives first firstProof = hashBytes primitives second secondProof)
    (apart : ∀ left ∈ hashedTexts primitives (.object first) firstProof,
      ∀ right ∈ hashedTexts primitives (.object second) secondProof,
        primitives.sha256 left = primitives.sha256 right → left = right)
    (firstValid : (Json.object first).WellFormed)
    (own : ∀ context, firstProof.context = some context → context.WellFormed) :
    Same primitives.numbers.same (proofConfig firstProof) (proofConfig secondProof) ∧
      Same primitives.numbers.same (.object (unsecured first firstProof))
        (.object (unsecured second secondProof)) := by
  have lengths : (primitives.sha256 (proofBytes primitives firstProof)).length =
      (primitives.sha256 (proofBytes primitives secondProof)).length := by
    rw [ideal.hashes, ideal.hashes]
  obtain ⟨proofs, documents⟩ := List.append_inj equal lengths
  have proofTexts := apart _ List.mem_cons_self _ List.mem_cons_self proofs
  have documentTexts := apart _ (List.mem_cons_of_mem _ List.mem_cons_self) _
    (List.mem_cons_of_mem _ List.mem_cons_self) documents
  have configValid : (proofConfig firstProof).WellFormed := by
    rw [proofConfig_object]
    exact toJson_wellFormed own
  exact ⟨(CanonicalJson.bytes_eq_iff primitives.numbers configValid).mp proofTexts,
    (CanonicalJson.bytes_eq_iff primitives.numbers
      (unsecured_wellFormed firstValid own)).mp documentTexts⟩

private theorem context_same {sameNumber : Number → Number → Prop}
    {firstProof secondProof : IntegrityProof}
    (same : Same sameNumber (proofConfig firstProof) (proofConfig secondProof))
    (own : ∀ context, secondProof.context = some context → context.WellFormed) :
    Option.Rel (Same sameNumber) firstProof.context secondProof.context := by
  rw [proofConfig_object, proofConfig_object] at same
  obtain ⟨first, firstShape, firstContext⟩ :=
    member?_context_toJson { firstProof with proofValue := none }
  obtain ⟨second, secondShape, secondContext⟩ :=
    member?_context_toJson { secondProof with proofValue := none }
  have valid : (Json.object second).WellFormed := by
    rw [← secondShape]
    exact toJson_wellFormed own
  rw [firstShape, secondShape] at same
  change member? "@context" first = firstProof.context at firstContext
  change member? "@context" second = secondProof.context at secondContext
  rw [← firstContext, ← secondContext]
  exact same.member_rel valid "@context"

private theorem same_of_accepted (ideal : Ideal primitives) {first second : Json}
    {firstNow secondNow : Int} {firstPrepared secondPrepared : PreparedProof}
    {publicKey : List UInt8} (firstValid : first.WellFormed) (secondValid : second.WellFormed)
    (firstPrepares : prepare primitives first firstNow = .ok firstPrepared)
    (firstVerifies : verify primitives first firstPrepared publicKey = .ok ())
    (secondPrepares : prepare primitives second secondNow = .ok secondPrepared)
    (secondVerifies : verify primitives second secondPrepared publicKey = .ok ())
    (sameValue : firstPrepared.proof.proofValue = secondPrepared.proof.proofValue)
    (apart : ∀ left ∈ hashedTexts primitives first firstPrepared.proof,
      ∀ right ∈ hashedTexts primitives second secondPrepared.proof,
        primitives.sha256 left = primitives.sha256 right → left = right) :
    Same primitives.numbers.same (bare first) (bare second) ∧
      SameContexts primitives.numbers.same first second firstPrepared.proof.context
        secondPrepared.proof.context := by
  obtain ⟨firstMembers, firstRaw, rfl, firstFound, firstRead, firstContext⟩ :=
    prepare_ok firstPrepares
  obtain ⟨secondMembers, secondRaw, rfl, secondFound, secondRead, secondContext⟩ :=
    prepare_ok secondPrepares
  obtain ⟨value, base, signature, present, decoded, verified⟩ := verify_ok firstVerifies
  obtain ⟨other, otherBase, otherSignature, otherPresent, otherDecoded, otherVerified⟩ :=
    verify_ok secondVerifies
  -- one proof value is one signature, and one signature is for one message
  rw [present, otherPresent] at sameValue
  cases sameValue
  rw [decoded] at otherDecoded
  cases otherDecoded
  have length : ∀ members proof, (hashBytes primitives members proof).length = 64 := by
    intro members proof
    rw [hashBytes, List.length_append, ideal.hashes, ideal.hashes]
  have message := ideal.sound publicKey signature _ _ (length _ _) (length _ _) verified otherVerified
  have firstOwn := fromJson_context firstRead (firstValid.member firstFound)
  have secondOwn := fromJson_context secondRead (secondValid.member secondFound)
  obtain ⟨configs, documents⟩ := same_of_hashBytes ideal message apart firstValid firstOwn
  have contexts := context_same configs secondOwn
  have stripped := documents.removeMember "@context"
  have named : ∀ members : List (String × Json),
      member? "@context" (removeMember "signature" (removeMember "proof" members)) =
        member? "@context" members := fun _ => member?_removed (by decide) (by decide)
  cases firstGiven : firstPrepared.proof.context with
  | none =>
      cases secondGiven : secondPrepared.proof.context with
      | some other =>
          rw [firstGiven, secondGiven] at contexts
          cases contexts
      | none =>
          simp only [unsecured, firstGiven, secondGiven] at documents stripped
          refine ⟨stripped, ?_⟩
          have related := documents.member_rel secondValid.removeMember.removeMember "@context"
          rw [named, named] at related
          exact related
  | some own =>
      cases secondGiven : secondPrepared.proof.context with
      | none =>
          rw [firstGiven, secondGiven] at contexts
          cases contexts
      | some other =>
          rw [firstGiven] at contexts firstContext
          rw [secondGiven] at contexts secondContext
          simp only [unsecured, firstGiven, secondGiven, removeMember_insertMember_self] at stripped
          cases contexts with
          | some matched =>
              exact ⟨stripped, matched, validateContext_continues firstContext,
                validateContext_continues secondContext⟩

end

/-- Signing completes, changes the context, the proof and the signature only, and is
accepted; documents accepted with one proof value under one key say the same, outside the
contexts that follow those of the proof. -/
theorem integrity_proofs (primitives : Primitives) (ideal : Ideal primitives) :
    (∀ (members : List (String × Json)) (verificationMethod : String) (created : Int)
      (text : String) (signingKey : List UInt8),
      (Json.object members).WellFormed → Signable (.object members) →
        primitives.formatRfc3339 created = some text →
          ∃ signed, sign primitives (.object members) verificationMethod created signingKey =
            .ok signed ∧
              SignedFrom primitives (.object members) verificationMethod signingKey signed) ∧
    ∀ (first second : Json) (firstNow secondNow : Int) (firstPrepared secondPrepared : PreparedProof)
      (publicKey : List UInt8), first.WellFormed → second.WellFormed →
      prepare primitives first firstNow = .ok firstPrepared →
      verify primitives first firstPrepared publicKey = .ok () →
      prepare primitives second secondNow = .ok secondPrepared →
      verify primitives second secondPrepared publicKey = .ok () →
      firstPrepared.proof.proofValue = secondPrepared.proof.proofValue →
      (∀ left ∈ hashedTexts primitives first firstPrepared.proof,
        ∀ right ∈ hashedTexts primitives second secondPrepared.proof,
          primitives.sha256 left = primitives.sha256 right → left = right) →
        Same primitives.numbers.same (bare first) (bare second) ∧
          SameContexts primitives.numbers.same first second firstPrepared.proof.context
            secondPrepared.proof.context := by
  refine ⟨?_, ?_⟩
  · intro members verificationMethod created text signingKey valid signable shown
    exact sign_completes ideal rfl valid signable shown
  · intro first second firstNow secondNow firstPrepared secondPrepared publicKey firstValid
      secondValid firstPrepares firstVerifies secondPrepares secondVerifies sameValue apart
    exact same_of_accepted ideal firstValid secondValid firstPrepares firstVerifies secondPrepares
      secondVerifies sameValue apart

namespace IntegritySample

def pad (length : Nat) (bytes : List UInt8) : List UInt8 :=
  (bytes ++ List.replicate length 0).take length

def formatRfc3339 (created : Int) : Option String :=
  if created = 0 then some "1970-01-01T00:00:00Z" else none

def parseRfc3339 (text : String) : Option Int :=
  if text = "1970-01-01T00:00:00Z" then some 0 else none

def encodeBase58Btc (bytes : List UInt8) : String :=
  String.ofList ('z' :: bytes.map fun byte => Char.ofNat byte.toNat)

def multibase (text : String) : Option (MultibaseBase × List UInt8) :=
  match text.toList with
  | 'z' :: characters =>
      some (.base58Btc, characters.map fun character => UInt8.ofNat character.toNat)
  | _ => none

/-- Signatures repeat the message; hashes tell the lengths of texts apart. -/
def primitives : Primitives where
  formatRfc3339 := formatRfc3339
  parseRfc3339 := parseRfc3339
  sha256 text := pad 32 (UInt8.ofNat text.length :: text)
  encodeBase58Btc := encodeBase58Btc
  multibase := multibase
  isVerifyingKey _ := true
  verifyingKey := pad 32
  sign _ := pad 64
  verifyStrict _ message signature := signature == pad 64 message
  numbers :=
    { text := fun _ => ['0'], same := fun _ _ => True, canonical := by simp,
      plain := fun _ => by decide, nonempty := by simp }

theorem pad_length (length : Nat) (bytes : List UInt8) : (pad length bytes).length = length := by
  simp [pad]

theorem pad_of_length {length : Nat} {bytes : List UInt8} (exact : bytes.length = length) :
    pad length bytes = bytes := by
  simp [pad, ← exact]

theorem ideal : Ideal primitives where
  dates := by
    intro created text shown
    by_cases zero : created = 0
    · simp only [primitives, formatRfc3339, zero, if_true, Option.some.injEq] at shown
      subst shown
      rfl
    · simp [primitives, formatRfc3339, zero] at shown
  hashes := fun _ => pad_length 32 _
  multibase := by
    intro bytes
    have characters : ∀ byte : UInt8, UInt8.ofNat (Char.ofNat byte.toNat).toNat = byte := by
      have codes : ∀ code : Fin 256, (Char.ofNat code.val).toNat = code.val := by decide +kernel
      intro byte
      rw [codes ⟨byte.toNat, byte.toNat_lt⟩, UInt8.ofNat_toNat]
    have every : bytes.map ((fun character => UInt8.ofNat character.toNat) ∘
        fun byte => Char.ofNat byte.toNat) = bytes := by
      simp [Function.comp_def, characters]
    simp [primitives, multibase, encodeBase58Btc, every]
  signatures := fun _ _ => pad_length 64 _
  keys := fun _ => ⟨pad_length 32 _, rfl⟩
  complete := by simp [primitives]
  sound := by
    intro key signature first second firstLength secondLength firstVerified secondVerified
    simp only [primitives, beq_iff_eq] at firstVerified secondVerified
    rw [pad_of_length firstLength] at firstVerified
    rw [pad_of_length secondLength] at secondVerified
    exact firstVerified.symm.trans secondVerified

def members : List (String × Json) :=
  [("@context", .string "https://www.w3.org/ns/activitystreams"), ("type", .string "Create"),
    ("signature", .string "old")]

def signed : Json :=
  match sign primitives (.object members) "https://a.example/#key" 0 [7] with
  | .ok signed => signed
  | .error _ => .null

def extended : Json :=
  .object (insertMember "@context"
    (.array [.string "https://www.w3.org/ns/activitystreams", .string dataIntegrityContext,
      .string "https://a.example/ns"]) (signed.asObject?.getD []))

def prepared : PreparedProof :=
  ⟨"https://a.example/#key", (((signed.get? "proof").bind IntegrityProof.fromJson).getD
    (unsignedProof .null "" ""))⟩

end IntegritySample

open IntegritySample in
theorem integrity_proofs_sample :
    SignedFrom primitives (.object members) "https://a.example/#key" [7] signed ∧
      Same primitives.numbers.same (bare signed) (bare extended) ∧
      SameContexts primitives.numbers.same signed extended prepared.proof.context
        prepared.proof.context := by
  have valid : (Json.object members).WellFormed := by
    refine .object (by decide) ?_
    intro entry member
    simp only [members, List.mem_cons, List.not_mem_nil, or_false] at member
    rcases member with rfl | rfl | rfl <;> exact .string _
  obtain ⟨result, success, completes⟩ := (integrity_proofs primitives ideal).1 members
    "https://a.example/#key" 0 _ [7] valid trivial rfl
  have same : signed = result := by
    rw [signed, success]
  rw [← same] at completes
  refine ⟨completes, (integrity_proofs primitives ideal).2 signed extended 0 0 prepared prepared
    (pad 32 [7]) completes.wellFormed ?_ (by decide +kernel) (by decide +kernel) (by decide +kernel)
    (by decide +kernel) rfl (by decide +kernel)⟩
  have object : signed = .object (signed.asObject?.getD []) := by decide +kernel
  have whole := completes.wellFormed
  rw [object] at whole
  refine whole.insertMember (.array ?_)
  intro value member
  simp only [List.mem_cons, List.not_mem_nil, or_false] at member
  rcases member with rfl | rfl | rfl <;> exact .string _

end Roosty.Federation.Integrity
