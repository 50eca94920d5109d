import Mathlib.Algebra.Group.Int.Defs
import Roosty.Federation.Http
import Roosty.Library.Result

/-!
# HTTP request signatures used by ActivityPub federation

Parsing, verification and signing in the legacy and the RFC 9421 format. The
cryptographic primitives, the date format and the URL parser belong to other
libraries and are parameters.
-/

set_option autoImplicit false

namespace Roosty.Federation.Signature

open Library StructuredField

def signatureLabel : List Char := "sig1".toList

def secondNanos : Int := 1000000000
def clockSkew : Nat := 300 * 1000000000

/-- HTTP signature wire format selected for a federation request. -/
inductive SignatureFormat where
  | legacy
  | rfc9421
deriving DecidableEq

inductive SignatureAlgorithm where
  | rsaPkcs1Sha256
  | ed25519
deriving DecidableEq

def SignatureAlgorithm.asStr : SignatureAlgorithm → List Char
  | .rsaPkcs1Sha256 => "rsa-v1_5-sha256".toList
  | .ed25519 => "ed25519".toList

inductive ActorKeyAlgorithm where
  | rsaPkcs1Sha256
  | ed25519
deriving DecidableEq

structure SignatureIdentity where
  format : SignatureFormat
  keyId : List Char
deriving DecidableEq

structure SignedHeaders where
  format : SignatureFormat
  headers : HeaderMap

inductive SignatureError where
  | missingSignature
  | malformedStructuredField
  | invalidLabels
  | invalidParameter (name : String)
  | unsupportedAlgorithm
  | invalidTimestamp
  | missingRequiredComponent
  | unsupportedComponent
  | invalidHeader (name : List Char)
  | invalidContentDigest
  | keyMismatch
  | invalidPublicKey
  | invalidSignature
  | invalidTargetUri
deriving DecidableEq

/-- Functions of other libraries. Times are whole seconds since the epoch; a
signature base is passed as the text whose bytes are signed. -/
structure Primitives (PublicKey PrivateKey Ed25519Key : Type) where
  parseDictionary : List Char → Option Dictionary
  parsePath : List Char → UrlPath
  parseQuery : List Char → UrlQuery
  parseHttpDate : List Char → Option Nat
  fmtHttpDate : Nat → Option (List Char)
  sha256 : List UInt8 → List UInt8
  rsaFromPkcs1Der : List UInt8 → Option PublicKey
  rsaToPem : PublicKey → Option (List Char)
  rsaFromPem : List Char → Option PublicKey
  rsaVerify : PublicKey → List Char → List UInt8 → Bool
  rsaSign : PrivateKey → List Char → List UInt8
  ed25519FromBytes : List UInt8 → Option Ed25519Key
  ed25519VerifyStrict : Ed25519Key → List Char → List UInt8 → Bool

variable {PublicKey PrivateKey Ed25519Key : Type}
variable (primitives : Primitives PublicKey PrivateKey Ed25519Key)

/-!
## Header values
-/

def trimBlanks (text : List Char) : List Char :=
  Text.trimMatches (fun character => character == ' ' || character == '\t') text

def trimmedValues (name : List Char) :
    List HeaderValue → Except SignatureError (List (List Char))
  | [] => .ok []
  | value :: values => do
      let text ← okOr value.toStr (.invalidHeader name)
      let texts ← trimmedValues name values
      return trimBlanks text :: texts

def combinedHeaderValue (headers : HeaderMap) (name : List Char) :
    Except SignatureError (List Char) := do
  let values ← trimmedValues name (headers.getAll name)
  ensure (!values.isEmpty) (.invalidHeader name)
  return ", ".toList.intercalate values

def headerValue (headers : HeaderMap) (name : List Char) :
    Except SignatureError (Option (List Char)) :=
  match headers.get name with
  | none => .ok none
  | some value => do
      let text ← okOr value.toStr (.invalidHeader name)
      return some text

/-- The `key="value"` pairs of a legacy `Signature` header. -/
def legacyAttributes (value : List Char) : List (List Char × List Char) :=
  (value.splitOn ',').filterMap fun part =>
    (Text.splitOnce '=' (Text.trimMatches Text.isWhitespace part)).map fun entry =>
      (entry.1, Text.trimMatches (· == '"') entry.2)

/-- Collecting into a map keeps the last value of a repeated key. -/
def attribute? (attributes : List (List Char × List Char)) (key : String) :
    Option (List Char) :=
  (attributes.reverse.find? fun entry => entry.1 == key.toList).map Prod.snd

/-- One line for each name: its label, then the value found for it. -/
def labelledLines (label : List Char → List Char)
    (value : List Char → Except SignatureError (List Char)) :
    List (List Char) → Except SignatureError (List (List Char))
  | [] => .ok []
  | name :: names => do
      let text ← value name
      let lines ← labelledLines label value names
      return (label name ++ text) :: lines

def checkSystemTime (now timestamp : Int) : Except SignatureError Unit :=
  ensure (decide ((now - timestamp).natAbs ≤ clockSkew)) .invalidTimestamp

/-!
## Keys
-/

def verifyBytes (publicKeyPem : List Char) (base : List Char) (signature : List UInt8) :
    Except SignatureError Unit := do
  let key ← okOr (primitives.rsaFromPem publicKeyPem) .invalidPublicKey
  ensure (primitives.rsaVerify key base signature) .invalidSignature

def verifyKeyBytes (algorithm : ActorKeyAlgorithm) (publicKey : List UInt8) (base : List Char)
    (signature : List UInt8) : Except SignatureError Unit :=
  match algorithm with
  | .rsaPkcs1Sha256 => do
      let key ← okOr (primitives.rsaFromPkcs1Der publicKey) .invalidPublicKey
      ensure (primitives.rsaVerify key base signature) .invalidSignature
  | .ed25519 => do
      ensure (publicKey.length == 32) .invalidPublicKey
      let key ← okOr (primitives.ed25519FromBytes publicKey) .invalidPublicKey
      ensure (primitives.ed25519VerifyStrict key base signature) .invalidSignature

/-!
## The legacy format
-/

def requestTarget : List Char := "(request-target)".toList

def requestTargetValue (parts : Parts) : List Char :=
  Text.toAsciiLowercase parts.method.text ++ ' ' ::
    match parts.uri.pathAndQuery with
    | some target => target.asStr
    | none => ['/']

def legacyCovered (attributes : List (List Char × List Char)) : List (List Char) :=
  Text.splitWhitespace ((attribute? attributes "headers").getD requestTarget)

def legacyRequired : Option (List UInt8) → List (List Char)
  | some _ => [requestTarget, "host".toList, "date".toList, "digest".toList]
  | none => [requestTarget, "host".toList, "date".toList]

def legacyComponent (parts : Parts) (name : List Char) : Except SignatureError (List Char) :=
  if Text.eqIgnoreAsciiCase name requestTarget then .ok (requestTargetValue parts)
  else combinedHeaderValue parts.headers name

def legacyLabel (name : List Char) : List Char := Text.toAsciiLowercase name ++ ": ".toList

def legacyLines (parts : Parts) (covered : List (List Char)) :
    Except SignatureError (List (List Char)) :=
  labelledLines legacyLabel (legacyComponent parts) covered

def legacyDigest (body : List UInt8) : List Char :=
  "SHA-256=".toList ++ Base64.encode (primitives.sha256 body)

def checkLegacyDigest (headers : HeaderMap) : Option (List UInt8) → Except SignatureError Unit
  | none => .ok ()
  | some body => do
      let value ← headerValue headers "digest".toList
      let digest ← okOr value .invalidContentDigest
      ensure (digest == legacyDigest primitives body) .invalidContentDigest

def verifyLegacy (now : Int) (parts : Parts) (body : Option (List UInt8))
    (expectedKeyId publicKeyPem : List Char) : Except SignatureError Unit := do
  let date ← headerValue parts.headers "date".toList
  let date ← okOr date .invalidTimestamp
  let date ← okOr (primitives.parseHttpDate date) .invalidTimestamp
  checkSystemTime now (date * secondNanos)
  let signature ← headerValue parts.headers "signature".toList
  let signature ← okOr signature .missingSignature
  let attributes := legacyAttributes signature
  ensure (attribute? attributes "keyId" == some expectedKeyId) .keyMismatch
  ensure ((legacyRequired body).all fun required =>
    (legacyCovered attributes).any fun name => Text.eqIgnoreAsciiCase name required)
    .missingRequiredComponent
  let base ← legacyLines parts (legacyCovered attributes)
  checkLegacyDigest primitives parts.headers body
  let bytes ← okOr ((attribute? attributes "signature").bind Base64.decode) .invalidSignature
  verifyBytes primitives publicKeyPem (['\n'].intercalate base) bytes

def verifyLegacyBytes (now : Int) (parts : Parts) (body : Option (List UInt8))
    (expectedKeyId : List Char) (publicKey : List UInt8) : Except SignatureError Unit := do
  let key ← okOr (primitives.rsaFromPkcs1Der publicKey) .invalidPublicKey
  let pem ← okOr (primitives.rsaToPem key) .invalidPublicKey
  verifyLegacy primitives now parts body expectedKeyId pem

/-!
## The RFC 9421 format
-/

structure ParsedRfc9421 where
  input : InnerList
  components : List (List Char)
  created : Int
  keyId : List Char
  signature : List UInt8
  algorithm : Option SignatureAlgorithm

def onlyMember (members : Dictionary) : Except SignatureError (Key × ListEntry) :=
  match members with
  | [member] => .ok member
  | _ => .error .invalidLabels

def asInnerList : ListEntry → Except SignatureError InnerList
  | .innerList list => .ok list
  | .item _ => .error .malformedStructuredField

def asItem : ListEntry → Except SignatureError Item
  | .item item => .ok item
  | .innerList _ => .error .malformedStructuredField

def parseAlgorithm : Option BareItem → Except SignatureError (Option SignatureAlgorithm)
  | none => .ok none
  | some algorithm => do
      let name ← okOr algorithm.asString .unsupportedAlgorithm
      if name = SignatureAlgorithm.rsaPkcs1Sha256.asStr then .ok (some .rsaPkcs1Sha256)
      else if name = SignatureAlgorithm.ed25519.asStr then .ok (some .ed25519)
      else .error .unsupportedAlgorithm

def methodComponent : List Char := "@method".toList
def targetUriComponent : List Char := "@target-uri".toList

def parseComponents : List (List Char) → List Item → Except SignatureError (List (List Char))
  | _, [] => .ok []
  | seen, item :: items => do
      ensure item.params.isEmpty .unsupportedComponent
      let component ← okOr item.bareItem.asString .unsupportedComponent
      ensure (component == Text.toAsciiLowercase component && !seen.contains component)
        .unsupportedComponent
      ensure (!(component.head? == some '@') || component == methodComponent ||
        component == targetUriComponent) .unsupportedComponent
      ensure (component.head? == some '@' || isHeaderName component) .unsupportedComponent
      let components ← parseComponents (component :: seen) items
      return component :: components

/-- `u64::try_from` and the bounded addition to the epoch. -/
def createdTime (created : Int) : Option Int :=
  if 0 ≤ created ∧ created < 2 ^ 63 then some (created * secondNanos) else none

def parseRfc9421 (parts : Parts) : Except SignatureError ParsedRfc9421 := do
  let signatureInput ← combinedHeaderValue parts.headers "signature-input".toList
  let signature ← combinedHeaderValue parts.headers "signature".toList
  let inputs ← okOr (primitives.parseDictionary signatureInput) .malformedStructuredField
  let signatures ← okOr (primitives.parseDictionary signature) .malformedStructuredField
  ensure (inputs.length == 1 && signatures.length == 1) .invalidLabels
  let entry ← onlyMember inputs
  let signatureEntry ← onlyMember signatures
  ensure (decide (entry.1 = signatureEntry.1)) .invalidLabels
  let input ← asInnerList entry.2
  let signatureItem ← asItem signatureEntry.2
  ensure signatureItem.params.isEmpty .malformedStructuredField
  let signature ← okOr signatureItem.bareItem.asByteSequence .malformedStructuredField
  let created ← okOr ((lookup input.params "created".toList).bind BareItem.asInteger)
    (.invalidParameter "created")
  let created ← okOr (createdTime created) .invalidTimestamp
  let keyId ← okOr ((lookup input.params "keyid".toList).bind BareItem.asString)
    (.invalidParameter "keyid")
  let algorithm ← parseAlgorithm (lookup input.params "alg".toList)
  let components ← parseComponents [] input.items
  return ⟨input, components, created, keyId, signature, algorithm⟩

def componentValue (method : Method) (targetUri : List Char) (headers : HeaderMap)
    (component : List Char) : Except SignatureError (List Char) :=
  if component = methodComponent then .ok (Text.toAsciiUppercase method.text)
  else if component = targetUriComponent then .ok targetUri
  else if component.head? ≠ some '@' then combinedHeaderValue headers component
  else .error .unsupportedComponent

def componentLabel (component : List Char) : List Char := '"' :: (component ++ "\": ".toList)

def signatureBase (method : Method) (targetUri : List Char) (headers : HeaderMap)
    (components : List (List Char)) (signatureParams : List Char) :
    Except SignatureError (List Char) := do
  let lines ← labelledLines componentLabel (componentValue method targetUri headers) components
  return ['\n'].intercalate (lines ++ ["\"@signature-params\": ".toList ++ signatureParams])

def validateContentDigest (parts : Parts) (body : List UInt8) : Except SignatureError Unit :=
  match combinedHeaderValue parts.headers "content-digest".toList with
  | .error _ => .error .invalidContentDigest
  | .ok value => do
      let digest ← okOr (primitives.parseDictionary value) .invalidContentDigest
      match lookup digest "sha-256".toList with
      | some (.item item) =>
          ensure (item.params.isEmpty &&
            item.bareItem.asByteSequence == some (primitives.sha256 body)) .invalidContentDigest
      | _ => .error .invalidContentDigest

def inboundTargetUri (base : Url) (parts : Parts) : Url :=
  { base with
    path := primitives.parsePath parts.uri.path
    query := parts.uri.query.map primitives.parseQuery
    fragment := none }

def checkContentDigest (parts : Parts) (components : List (List Char)) :
    Option (List UInt8) → Except SignatureError Unit
  | none => .ok ()
  | some body => do
      ensure (components.contains "content-digest".toList) .missingRequiredComponent
      validateContentDigest primitives parts body

def verifyRfc9421Parsed (now : Int) (parts : Parts) (body : Option (List UInt8))
    (publicBaseUrl : Url) (expectedKeyId : List Char) (parsed : ParsedRfc9421)
    (verifySignature : List Char → List UInt8 → Except SignatureError Unit) :
    Except SignatureError Unit := do
  checkSystemTime now parsed.created
  ensure (parsed.keyId == expectedKeyId) .keyMismatch
  ensure ([methodComponent, targetUriComponent].all fun required =>
    parsed.components.contains required) .missingRequiredComponent
  checkContentDigest primitives parts parsed.components body
  let targetUri := (inboundTargetUri primitives publicBaseUrl parts).asStr
  let base ← signatureBase parts.method targetUri parts.headers parsed.components
    (serializeInnerList parsed.input)
  verifySignature base parsed.signature

def ActorKeyAlgorithm.expected : ActorKeyAlgorithm → SignatureAlgorithm
  | .rsaPkcs1Sha256 => .rsaPkcs1Sha256
  | .ed25519 => .ed25519

def verifyRfc9421Key (now : Int) (parts : Parts) (body : Option (List UInt8))
    (publicBaseUrl : Url) (expectedKeyId : List Char) (algorithm : ActorKeyAlgorithm)
    (publicKey : List UInt8) : Except SignatureError Unit := do
  let parsed ← parseRfc9421 primitives parts
  ensure (parsed.algorithm.all (· == algorithm.expected)) .unsupportedAlgorithm
  verifyRfc9421Parsed primitives now parts body publicBaseUrl expectedKeyId parsed
    (verifyKeyBytes primitives algorithm publicKey)

/-!
## Entry points
-/

def signatureInput : List Char := "signature-input".toList

def identity (parts : Parts) : Except SignatureError (Option SignatureIdentity) :=
  if parts.headers.containsKey signatureInput then do
    let parsed ← parseRfc9421 primitives parts
    return some ⟨.rfc9421, parsed.keyId⟩
  else do
    match ← headerValue parts.headers "signature".toList with
    | none => return none
    | some value =>
        let keyId ← okOr (attribute? (legacyAttributes value) "keyId") (.invalidParameter "keyid")
        return some ⟨.legacy, keyId⟩

def verifyActorKey (now : Int) (parts : Parts) (body : Option (List UInt8))
    (publicBaseUrl : Url) (expectedKeyId : List Char) (algorithm : ActorKeyAlgorithm)
    (publicKey : List UInt8) : Except SignatureError SignatureFormat :=
  if parts.headers.containsKey signatureInput then do
    verifyRfc9421Key primitives now parts body publicBaseUrl expectedKeyId algorithm publicKey
    return .rfc9421
  else do
    ensure (algorithm == .rsaPkcs1Sha256) .unsupportedAlgorithm
    verifyLegacyBytes primitives now parts body expectedKeyId publicKey
    return .legacy

/-!
## Signing
-/

/-- Signing fails with an error, or panics where the clock reading cannot be
formatted. -/
inductive SignFailure where
  | error (error : SignatureError)
  | panic
deriving DecidableEq

def authority (url : Url) : Except SignatureError (List Char) := do
  let _ ← okOr url.hostStr .invalidTargetUri
  return url.hostAndPort

def pathAndQuery (url : Url) : List Char := url.path.text ++ url.queryText

def insertHeader (headers : HeaderMap) (name : HeaderName) (value : List Char) :
    Except SignFailure HeaderMap := do
  let value ← okOr (HeaderValue.fromStr value) (.error (.invalidHeader name.text))
  return headers.insert name value

def escapeString (value : List Char) : List Char :=
  (value.flatMap fun character => if character = '\\' then "\\\\".toList else [character]).flatMap
    fun character => if character = '"' then "\\\"".toList else [character]

def hostName : HeaderName := ⟨"host".toList, by decide, by decide⟩
def dateName : HeaderName := ⟨"date".toList, by decide, by decide⟩
def digestName : HeaderName := ⟨"digest".toList, by decide, by decide⟩
def signatureName : HeaderName := ⟨"signature".toList, by decide, by decide⟩
def signatureInputName : HeaderName := ⟨"signature-input".toList, by decide, by decide⟩
def contentDigestName : HeaderName := ⟨"content-digest".toList, by decide, by decide⟩

def liftError {Value : Type} : Except SignatureError Value → Except SignFailure Value
  | .ok value => .ok value
  | .error error => .error (.error error)

/-- Whole seconds since the epoch of a clock reading. -/
def wholeSeconds (now : Int) : Option Nat :=
  if 0 ≤ now then some (now / secondNanos).toNat else none

/-- `name="value"`. -/
def quotedAttribute (name : String) (value : List Char) : List Char :=
  name.toList ++ '=' :: '"' :: (value ++ ['"'])

def legacySignatureHeader (keyId : List Char) (signature : List UInt8) : List Char :=
  [','].intercalate [quotedAttribute "keyId" keyId,
    quotedAttribute "algorithm" "rsa-sha256".toList,
    quotedAttribute "headers" "(request-target) host date digest".toList,
    quotedAttribute "signature" (Base64.encode signature)]

def signLegacyPost (now : Int) (url : Url) (body : List UInt8) (privateKey : PrivateKey)
    (keyId : List Char) : Except SignFailure SignedHeaders := do
  let host ← liftError (authority url)
  let digest := legacyDigest primitives body
  let date ← okOr ((wholeSeconds now).bind primitives.fmtHttpDate) .panic
  let base := ['\n'].intercalate ["(request-target): post ".toList ++ pathAndQuery url,
    "host: ".toList ++ host, "date: ".toList ++ date, "digest: ".toList ++ digest]
  let signature := legacySignatureHeader keyId (primitives.rsaSign privateKey base)
  let headers ← insertHeader ⟨[]⟩ dateName date
  let headers ← insertHeader headers digestName digest
  let headers ← insertHeader headers signatureName signature
  return ⟨.legacy, headers⟩

def quotedString (text : List Char) : List Char := '"' :: (text ++ ['"'])

def rfcSignatureParams (created : Nat) (keyId : List Char) : List Char :=
  "(\"@method\" \"@target-uri\" \"content-digest\")".toList ++
    (";created=".toList ++ (Nat.toDigits 10 created ++
      (";keyid=".toList ++ (quotedString (escapeString keyId) ++
        (";alg=".toList ++ quotedString SignatureAlgorithm.rsaPkcs1Sha256.asStr)))))

def signRfc9421Post (now : Int) (url : Url) (body : List UInt8) (privateKey : PrivateKey)
    (keyId : List Char) : Except SignFailure SignedHeaders := do
  let contentDigest :=
    "sha-256=:".toList ++ Base64.encode (primitives.sha256 body) ++ [':']
  let created ← okOr (wholeSeconds now) (.error .invalidTimestamp)
  let signatureParams := rfcSignatureParams created keyId
  let headers ← insertHeader ⟨[]⟩ contentDigestName contentDigest
  let base ← liftError (signatureBase Method.post url.asStr headers
    [methodComponent, targetUriComponent, "content-digest".toList] signatureParams)
  let signature := signatureLabel ++ "=:".toList ++
    Base64.encode (primitives.rsaSign privateKey base) ++ [':']
  let headers ← insertHeader headers signatureInputName
    (signatureLabel ++ '=' :: signatureParams)
  let headers ← insertHeader headers signatureName signature
  return ⟨.rfc9421, headers⟩

def signPost (format : SignatureFormat) (now : Int) (url : Url) (body : List UInt8)
    (privateKey : PrivateKey) (keyId : List Char) : Except SignFailure SignedHeaders :=
  match format with
  | .legacy => signLegacyPost primitives now url body privateKey keyId
  | .rfc9421 => signRfc9421Post primitives now url body privateKey keyId

end Roosty.Federation.Signature
