import Roosty.Federation.Discovery
import Roosty.Library.CanonicalJson
import Roosty.Library.JsonObject

/-!
# Integrity proofs

FEP-8b32 top-level `eddsa-jcs-2022` proofs of ActivityPub documents. The libraries for
hashes, signatures, multibase and dates are parameters; documents are canonicalized by
RFC 8785. Objects are maps, and the order of their members means nothing.
-/

set_option autoImplicit false

namespace Roosty.Federation.Integrity

open Library Json
open Discovery (MultibaseBase)

def dataIntegrityContext : String := "https://w3id.org/security/data-integrity/v2"

inductive ProofType where
  | dataIntegrityProof
deriving DecidableEq

inductive Cryptosuite where
  | eddsaJcs2022
deriving DecidableEq

inductive ProofPurpose where
  | assertionMethod
deriving DecidableEq

structure IntegrityProof where
  context : Option Json
  proofType : ProofType
  cryptosuite : Cryptosuite
  created : String
  expires : Option String
  verificationMethod : String
  proofPurpose : ProofPurpose
  proofValue : Option String
deriving DecidableEq

/-- Validated proof metadata needed to resolve its verification method. -/
structure PreparedProof where
  verificationMethod : String
  proof : IntegrityProof
deriving DecidableEq

inductive IntegrityError where
  | unsupported (message : String)
  | invalid (message : String)
  | expired
  | cryptographic
deriving DecidableEq

structure Primitives where
  formatRfc3339 : Int → Option String
  parseRfc3339 : String → Option Int
  sha256 : List UInt8 → List UInt8
  encodeBase58Btc : List UInt8 → String
  multibase : String → Option (MultibaseBase × List UInt8)
  isVerifyingKey : List UInt8 → Bool
  verifyingKey : List UInt8 → List UInt8
  sign : List UInt8 → List UInt8 → List UInt8
  verifyStrict : List UInt8 → List UInt8 → List UInt8 → Bool
  numbers : CanonicalJson.NumberFormat

/-!
## Proofs as JSON
-/

def optionalMember (name : String) (value : Option Json) : List (String × Json) :=
  value.toList.map fun value => (name, value)

/-- `serde_json::to_value`. -/
def IntegrityProof.toJson (proof : IntegrityProof) : Json :=
  .object (optionalMember "@context" proof.context ++
    [("type", .string "DataIntegrityProof"), ("cryptosuite", .string "eddsa-jcs-2022"),
      ("created", .string proof.created)] ++
    optionalMember "expires" (proof.expires.map .string) ++
    [("verificationMethod", .string proof.verificationMethod),
      ("proofPurpose", .string "assertionMethod")] ++
    optionalMember "proofValue" (proof.proofValue.map .string))

/-- A unit variant is its name, or an object from its name to null. -/
def unitVariant {Variant : Type} (name : String) (variant : Variant) : Json → Option Variant
  | .string value => if value = name then some variant else none
  | .object [(key, .null)] => if key = name then some variant else none
  | _ => none

/-- An optional field: null stands for absence. -/
def optionalField {Value : Type} (read : Json → Option Value) : Option Json → Option (Option Value)
  | none => some none
  | some .null => some none
  | some value => (read value).map some

def proofFields : List String :=
  ["@context", "type", "cryptosuite", "created", "expires", "verificationMethod", "proofPurpose",
    "proofValue"]

/-- `serde_json::from_value`; unknown fields are denied. Arrays are refused before. -/
def IntegrityProof.fromJson : Json → Option IntegrityProof
  | .object members => do
      if !members.all fun entry => proofFields.contains entry.1 then none
      let context ← optionalField some (member? "@context" members)
      let proofType ← member? "type" members >>=
        unitVariant "DataIntegrityProof" .dataIntegrityProof
      let cryptosuite ← member? "cryptosuite" members >>=
        unitVariant "eddsa-jcs-2022" .eddsaJcs2022
      let created ← member? "created" members >>= asStr?
      let expires ← optionalField asStr? (member? "expires" members)
      let verificationMethod ← member? "verificationMethod" members >>= asStr?
      let proofPurpose ← member? "proofPurpose" members >>=
        unitVariant "assertionMethod" .assertionMethod
      let proofValue ← optionalField asStr? (member? "proofValue" members)
      return ⟨context, proofType, cryptosuite, created, expires, verificationMethod, proofPurpose,
        proofValue⟩
  | _ => none

/-!
## Contexts
-/

def contexts : Option Json → Except IntegrityError (List Json)
  | some (.array values) => .ok values
  | some (.string value) => .ok [.string value]
  | some (.object members) => .ok [.object members]
  | _ => .error (.invalid "integrity proof context is invalid")

/-- Each context of the proof is the context of the document at its place. -/
def isContextPrefix : List Json → List Json → Bool
  | [], _ => true
  | _ :: _, [] => false
  | left :: lefts, right :: rights => valueEq left right && isContextPrefix lefts rights

def validateContext (document proof : Option Json) : Except IntegrityError Unit :=
  match proof with
  | none => .ok ()
  | some proof => do
      let document ← contexts document
      let proof ← contexts (some proof)
      ensure (isContextPrefix proof document)
        (.invalid "proof context is not a document context prefix")

/-- The context that `add_context` leaves. -/
def addedContext : Option Json → Except IntegrityError Json
  | some (.string context) =>
      if context = dataIntegrityContext then .ok (.string context)
      else .ok (.array [.string context, .string dataIntegrityContext])
  | some (.array contexts) =>
      if contexts.any fun value => value.asStr? == some dataIntegrityContext then
        .ok (.array contexts)
      else .ok (.array (contexts ++ [.string dataIntegrityContext]))
  | none => .ok (.array [.string dataIntegrityContext])
  | _ => .error (.invalid "secured document context is invalid")

def addContext (members : List (String × Json)) : Except IntegrityError (List (String × Json)) := do
  let context ← addedContext (member? "@context" members)
  return insertMember "@context" context members

/-!
## Signing and verification
-/

variable (primitives : Primitives)

def parseDate (value : String) : Except IntegrityError Int :=
  okOr (primitives.parseRfc3339 value) (.invalid "integrity proof date is not RFC 3339")

/-- The members that a proof secures, under the proof's own context. -/
def unsecured (members : List (String × Json)) (proof : IntegrityProof) : List (String × Json) :=
  let members := removeMember "signature" (removeMember "proof" members)
  match proof.context with
  | some context => insertMember "@context" context members
  | none => members

def proofConfig (proof : IntegrityProof) : Json :=
  match proof.toJson with
  | .object members => .object (removeMember "proofValue" members)
  | other => other

def proofBytes (proof : IntegrityProof) : List UInt8 :=
  CanonicalJson.bytes primitives.numbers (proofConfig proof)

def documentBytes (members : List (String × Json)) (proof : IntegrityProof) : List UInt8 :=
  CanonicalJson.bytes primitives.numbers (.object (unsecured members proof))

def hashData (document : Json) (proof : IntegrityProof) : Except IntegrityError (List UInt8) := do
  let members ← okOr document.asObject? (.invalid "secured document is not an object")
  return primitives.sha256 (proofBytes primitives proof) ++
    primitives.sha256 (documentBytes primitives members proof)

def checkExpires (now : Int) : Option String → Except IntegrityError Unit
  | none => .ok ()
  | some expires => do
      let expires ← parseDate primitives expires
      ensure (now < expires) .expired

def isArray : Json → Bool
  | .array _ => true
  | _ => false

def prepare (document : Json) (now : Int) : Except IntegrityError PreparedProof := do
  let raw ← okOr (document.get? "proof") (.invalid "forwarded activity has no integrity proof")
  ensure (!isArray raw) (.unsupported "proof sets are unsupported")
  let proof ← okOr (IntegrityProof.fromJson raw)
    (.unsupported "unsupported or malformed integrity proof")
  let _ ← parseDate primitives proof.created
  checkExpires primitives now proof.expires
  validateContext (document.get? "@context") proof.context
  ensure proof.proofValue.isSome (.invalid "integrity proof has no proofValue")
  return ⟨proof.verificationMethod, proof⟩

def verify (document : Json) (prepared : PreparedProof) (publicKey : List UInt8) :
    Except IntegrityError Unit := do
  let proofValue ← okOr prepared.proof.proofValue (.invalid "integrity proof has no proofValue")
  let (base, signature) ← okOr (primitives.multibase proofValue)
    (.invalid "proofValue is not Multibase")
  ensure (base == .base58Btc && signature.length == 64)
    (.invalid "proofValue is not a 64-byte base58-btc signature")
  ensure (publicKey.length == 32 && primitives.isVerifyingKey publicKey)
    (.invalid "verification method is not an Ed25519 key")
  let hashData ← hashData primitives document prepared.proof
  ensure (primitives.verifyStrict publicKey hashData signature) .cryptographic

def sign (document : Json) (verificationMethod : String) (created : Int)
    (signingKey : List UInt8) : Except IntegrityError Json := do
  let members ← okOr document.asObject? (.invalid "secured document is not an object")
  let members ← addContext (removeMember "signature" (removeMember "proof" members))
  let created ← okOr (primitives.formatRfc3339 created)
    (.invalid "proof creation date cannot be formatted")
  let proof : IntegrityProof :=
    { context := member? "@context" members, proofType := .dataIntegrityProof,
      cryptosuite := .eddsaJcs2022, created, expires := none, verificationMethod,
      proofPurpose := .assertionMethod, proofValue := none }
  let hashData ← hashData primitives (.object members) proof
  let proofValue := primitives.encodeBase58Btc (primitives.sign signingKey hashData)
  return .object (insertMember "proof" { proof with proofValue := some proofValue }.toJson members)

end Roosty.Federation.Integrity
