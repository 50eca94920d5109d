import Roosty.Federation.SignatureProperties

/-!
# Accepted requests

The names and the text that a verified signature covers, what two requests with
one text have in common, which server the text names, and the conditions under
which identification followed by verification accepts a request.
-/

set_option autoImplicit false

namespace Roosty.Federation.Signature

open Library StructuredField

/-!
## A small instance

Primitives that agree with the real ones on one date, one body and plain paths.
A signature is the key followed by the signed text.
-/

namespace Sample

def date : List Char := "Tue, 14 Nov 2023 22:13:20 GMT".toList
def dateSeconds : Nat := 1700000000
def now : Int := dateSeconds * secondNanos

def body : List UInt8 := [0x7b, 0x7d]

def bodyDigest : List UInt8 :=
  [0x44, 0x13, 0x6f, 0xa3, 0x55, 0xb3, 0x67, 0x8a, 0x11, 0x46, 0xad, 0x16, 0xf7, 0xe8, 0x64, 0x9e,
    0x94, 0xfb, 0x4f, 0xc2, 0x1f, 0xe7, 0x7e, 0x83, 0x10, 0xc0, 0x60, 0xf6, 0x1c, 0xaa, 0xff, 0x8a]

def parsePath (text : List Char) : UrlPath :=
  if valid : text.head? = some '/' ∧ (text.all fun character =>
      isUrlChar character && character != '?' && character != '#') = true then
    ⟨text, valid.1, valid.2⟩
  else ⟨['/'], by decide, by decide⟩

def parseQuery (text : List Char) : UrlQuery :=
  if valid : (text.all fun character => isUrlChar character && character != '#') = true then
    ⟨text, valid⟩
  else ⟨[], by decide⟩

def sign (key : List UInt8) (base : List Char) : List UInt8 :=
  key ++ base.flatMap String.utf8EncodeChar

def primitives : Primitives (List UInt8) (List UInt8) (List UInt8) where
  parseDictionary := parseDictionary
  parsePath := parsePath
  parseQuery := parseQuery
  parseHttpDate text :=
    if text = date then some dateSeconds else some (Nat.ofDigitChars 10 text 0)
  fmtHttpDate seconds :=
    if seconds = dateSeconds then some date
    else if seconds < 253402300800 then some (Nat.toDigits 10 seconds) else none
  sha256 bytes := if bytes = body then bodyDigest else bytes
  rsaFromPkcs1Der := some
  rsaToPem key := some (Base64.encode key)
  rsaFromPem := Base64.decode
  rsaVerify key base signature := signature == sign key base
  rsaSign := sign
  ed25519FromBytes := some
  ed25519VerifyStrict key base signature := signature == sign key base

def key : List UInt8 := [1, 2, 3]
def keyId : List Char := "https://remote.example/users/alice#main-key".toList

def url (host : UrlPart) : Url where
  scheme := ⟨"https".toList, by decide⟩
  username := ⟨[], by decide⟩
  password := none
  host := host
  port := none
  path := ⟨"/inbox".toList, by decide, by decide⟩
  query := none
  fragment := none

def here : Url := url ⟨"social.example".toList, by decide⟩
def elsewhere : Url := url ⟨"other.example".toList, by decide⟩

/-- The request that delivers a signed body to the inbox of a server. -/
def request (format : SignatureFormat) (url : Url) : Parts where
  method := Method.post
  uri := ⟨some ⟨"/inbox".toList, none, by decide⟩⟩
  headers :=
    match signPost primitives format now url body key keyId, HeaderValue.fromStr url.hostAndPort with
    | .ok signed, some host => signed.headers.insert hostName host
    | _, _ => ⟨[]⟩

/-- The same delivery with a field that the signature does not cover. -/
def requestWithField (format : SignatureFormat) (url : Url) : Parts :=
  { request format url with
    headers := ⟨(request format url).headers.entries ++
      [(⟨"user-agent".toList, by decide, by decide⟩, ⟨[0x78], by decide⟩)]⟩ }

theorem rfc9421_accepted : verifyActorKey primitives now (request .rfc9421 here) (some body) here
    keyId .rsaPkcs1Sha256 key = .ok .rfc9421 := by decide +kernel

theorem elsewhere_accepted : verifyActorKey primitives now (request .legacy elsewhere) (some body)
    here keyId .rsaPkcs1Sha256 key = .ok .legacy := by decide +kernel

end Sample

/-!
## Coverage
-/

variable {PublicKey PrivateKey Ed25519Key : Type}

/-- The covered names in order and the text whose signature is checked. Field
names are case-insensitive; the legacy text writes them in lower case. -/
structure Coverage where
  format : SignatureFormat
  names : List (List Char)
  base : List Char
deriving DecidableEq

def coverage (primitives : Primitives PublicKey PrivateKey Ed25519Key) (publicBaseUrl : Url)
    (parts : Parts) : Except SignatureError Coverage :=
  if parts.headers.containsKey signatureInput then do
    let parsed ← parseRfc9421 primitives parts
    let base ← signatureBase parts.method (inboundTargetUri primitives publicBaseUrl parts).asStr
      parts.headers parsed.components (serializeInnerList parsed.input)
    return ⟨.rfc9421, parsed.components, base⟩
  else do
    let signature ← headerValue parts.headers "signature".toList
    let signature ← okOr signature .missingSignature
    let covered := legacyCovered (legacyAttributes signature)
    let lines ← legacyLines parts covered
    return ⟨.legacy, covered.map Text.toAsciiLowercase, ['\n'].intercalate lines⟩

def signedTarget (primitives : Primitives PublicKey PrivateKey Ed25519Key) (publicBaseUrl : Url)
    (format : SignatureFormat) (parts : Parts) : List Char :=
  match format with
  | .legacy => legacyTarget parts
  | .rfc9421 => (inboundTargetUri primitives publicBaseUrl parts).asStr

variable {primitives : Primitives PublicKey PrivateKey Ed25519Key}
variable {now : Int} {parts : Parts} {body : Option (List UInt8)} {publicBaseUrl : Url}
variable {expectedKeyId : List Char} {algorithm : ActorKeyAlgorithm} {publicKey : List UInt8}
variable {format : SignatureFormat}

theorem verifyActorKey_ok
    (accepted : verifyActorKey primitives now parts body publicBaseUrl expectedKeyId algorithm
      publicKey = .ok format) :
    (parts.headers.containsKey signatureInput = true ∧ format = .rfc9421 ∧
      verifyRfc9421Key primitives now parts body publicBaseUrl expectedKeyId algorithm publicKey =
        .ok ()) ∨
    (parts.headers.containsKey signatureInput = false ∧ format = .legacy ∧
      algorithm = .rsaPkcs1Sha256 ∧
      ∃ pem, verifyLegacy primitives now parts body expectedKeyId pem = .ok ()) := by
  unfold verifyActorKey at accepted
  split at accepted
  next present =>
    obtain ⟨_, verified, accepted⟩ := bind_ok accepted
    cases accepted
    exact .inl ⟨present, rfl, verified⟩
  next absent =>
    obtain ⟨_, rsa, accepted⟩ := bind_ok accepted
    obtain ⟨_, verified, accepted⟩ := bind_ok accepted
    cases accepted
    obtain ⟨_, _, verified⟩ := bind_ok verified
    obtain ⟨pem, _, verified⟩ := bind_ok verified
    exact .inr ⟨by simpa using absent, rfl, by simpa using ensure_ok rsa, pem, verified⟩

def KeyVerifies (primitives : Primitives PublicKey PrivateKey Ed25519Key)
    (algorithm : ActorKeyAlgorithm) (base : List Char) (signature : List UInt8) : Prop :=
  match algorithm with
  | .rsaPkcs1Sha256 => ∃ key, primitives.rsaVerify key base signature = true
  | .ed25519 => ∃ key, primitives.ed25519VerifyStrict key base signature = true

private theorem verifyBytes_ok {pem base : List Char} {signature : List UInt8}
    (verified : verifyBytes primitives pem base signature = .ok ()) :
    KeyVerifies primitives .rsaPkcs1Sha256 base signature := by
  obtain ⟨key, _, verified⟩ := bind_ok verified
  exact ⟨key, ensure_ok verified⟩

private theorem verifyKeyBytes_ok {base : List Char} {signature : List UInt8}
    (verified : verifyKeyBytes primitives algorithm publicKey base signature = .ok ()) :
    KeyVerifies primitives algorithm base signature := by
  cases algorithm with
  | rsaPkcs1Sha256 =>
      obtain ⟨key, _, verified⟩ := bind_ok verified
      exact ⟨key, ensure_ok verified⟩
  | ed25519 =>
      obtain ⟨_, _, verified⟩ := bind_ok verified
      obtain ⟨key, _, verified⟩ := bind_ok verified
      exact ⟨key, ensure_ok verified⟩

/-- The text of the coverage of an accepted request is the text whose signature the
key verified. -/
theorem accepted_base_verified
    (accepted : verifyActorKey primitives now parts body publicBaseUrl expectedKeyId algorithm
      publicKey = .ok format) :
    ∃ cover signature, coverage primitives publicBaseUrl parts = .ok cover ∧
      cover.format = format ∧ KeyVerifies primitives algorithm cover.base signature := by
  rcases verifyActorKey_ok accepted with ⟨present, rfl, verified⟩ |
      ⟨absent, rfl, rfl, pem, verified⟩
  · obtain ⟨parsed, base, parsing, _, _, _, _, _, _, based, verified⟩ :=
      verifyRfc9421Key_ok verified
    refine ⟨⟨.rfc9421, parsed.components, base⟩, parsed.signature, ?_, rfl,
      verifyKeyBytes_ok verified⟩
    simp only [coverage, present, if_true, parsing, ok_bind, based]
    rfl
  · obtain ⟨given, lines, read, _, _, based, _, signature, verified⟩ := verifyLegacy_ok verified
    let names := (legacyCovered (legacyAttributes given)).map Text.toAsciiLowercase
    refine ⟨⟨.legacy, names, ['\n'].intercalate lines⟩, signature, ?_, rfl,
      verifyBytes_ok verified⟩
    simp only [coverage, absent, Bool.false_eq_true, if_false, read, ok_bind, okOr_some, based]
    rfl

/-!
## Equal texts
-/

private theorem legacy_coverage {pem : List Char} {cover : Coverage}
    (absent : parts.headers.containsKey signatureInput = false)
    (verified : verifyLegacy primitives now parts body expectedKeyId pem = .ok ())
    (computed : coverage primitives publicBaseUrl parts = .ok cover) :
    ∃ covered lines, legacyLines parts covered = .ok lines ∧ lines ≠ [] ∧
      cover = ⟨.legacy, covered.map Text.toAsciiLowercase, ['\n'].intercalate lines⟩ ∧
      (∀ required ∈ legacyRequired body, ∃ name ∈ covered,
        Text.toAsciiLowercase name = required) ∧
      checkLegacyDigest primitives parts.headers body = .ok () := by
  obtain ⟨signature, lines, read, _, covers, based, digest, _⟩ := verifyLegacy_ok verified
  simp only [coverage, absent, Bool.false_eq_true, if_false, read, ok_bind, okOr_some,
    based] at computed
  cases computed
  refine ⟨_, lines, based, ?_, rfl, covers, digest⟩
  obtain ⟨name, member, _⟩ := covers requestTarget (by cases body <;> simp [legacyRequired])
  intro none
  subst none
  have uncovered := List.forall₂_nil_right_iff.mp (labelledLines_ok based)
  rw [uncovered] at member
  cases member

private theorem rfc_coverage {cover : Coverage}
    (present : parts.headers.containsKey signatureInput = true)
    (verified : verifyRfc9421Key primitives now parts body publicBaseUrl expectedKeyId algorithm
      publicKey = .ok ())
    (computed : coverage primitives publicBaseUrl parts = .ok cover) :
    ∃ components params lines,
      labelledLines componentLabel (componentValue parts.method
        (inboundTargetUri primitives publicBaseUrl parts).asStr parts.headers) components =
          .ok lines ∧
      '\n' ∉ params ∧
      cover = ⟨.rfc9421, components,
        ['\n'].intercalate (lines ++ ["\"@signature-params\": ".toList ++ params])⟩ ∧
      methodComponent ∈ components ∧ targetUriComponent ∈ components ∧
      checkContentDigest primitives parts components body = .ok () := by
  obtain ⟨parsed, base, parsing, _, _, _, hasMethod, hasTarget, digest, based, _⟩ :=
    verifyRfc9421Key_ok verified
  simp only [coverage, present, if_true, parsing, ok_bind, based] at computed
  cases computed
  obtain ⟨lines, labelled, based⟩ := bind_ok based
  cases based
  refine ⟨_, _, lines, labelled, ?_, rfl, hasMethod, hasTarget, digest⟩
  intro newline
  exact absurd (serializeInnerList_printable parsed.input _ newline) (by decide)

private theorem intercalate_head {lines : List (List Char)} {line : List Char}
    (nonempty : line ≠ []) : (['\n'].intercalate (line :: lines)).head? = line.head? := by
  cases line with
  | nil => exact absurd rfl nonempty
  | cons first rest =>
      cases lines with
      | nil => simp
      | cons next later => simp [List.intercalate_cons_cons]

private theorem legacy_base_head {covered lines : List (List Char)}
    (based : legacyLines parts covered = .ok lines) (nonempty : lines ≠ []) :
    (['\n'].intercalate lines).head? ≠ some '"' := by
  cases lines with
  | nil => exact absurd rfl nonempty
  | cons line later =>
      obtain ⟨name, _, text, computed, rfl⟩ := (labelledLines_mem based).mp List.mem_cons_self
      obtain ⟨some, chars⟩ := legacyComponent_name computed
      cases written : Text.toAsciiLowercase name with
      | nil => exact absurd written some
      | cons first rest =>
          rw [intercalate_head (by simp [legacyLabel, written])]
          rw [written] at chars
          simp only [legacyLabel, written, List.cons_append, List.head?_cons, ne_eq,
            Option.some.injEq]
          exact (isLabelChar_ne (chars first List.mem_cons_self)).2.2

private theorem rfc_base_head {method : Method} {targetUri : List Char} {headers : HeaderMap}
    {components lines : List (List Char)} {params : List Char}
    (labelled : labelledLines componentLabel (componentValue method targetUri headers) components =
      .ok lines) :
    (['\n'].intercalate (lines ++ ["\"@signature-params\": ".toList ++ params])).head? =
      some '"' := by
  cases lines with
  | nil =>
      rw [List.nil_append, intercalate_head (by simp)]
      rfl
  | cons line later =>
      obtain ⟨name, _, text, _, rfl⟩ := (labelledLines_mem labelled).mp List.mem_cons_self
      rw [List.cons_append, intercalate_head (by simp [componentLabel])]
      rfl

theorem legacyDigest_plain (primitives : Primitives PublicKey PrivateKey Ed25519Key)
    (bytes : List UInt8) : ∀ character ∈ legacyDigest primitives bytes,
      character ≠ ',' ∧ character ≠ ' ' ∧ character ≠ '\t' := by
  intro character member
  rcases List.mem_append.mp member with label | encoded
  · have fixed : ("SHA-256=".toList.all fun character =>
        decide (character ≠ ',' ∧ character ≠ ' ' ∧ character ≠ '\t')) = true := by decide
    exact decide_eq_true_eq.mp (List.all_eq_true.mp fixed character label)
  · rcases Base64.encode_alphabet _ character encoded with digit | rfl
    · refine ⟨?_, ?_, ?_⟩ <;> intro same <;> rw [same] at digit <;> exact absurd digit (by decide)
    · decide

theorem trimBlanks_plain {text : List Char}
    (plain : ∀ character ∈ text, character ≠ ' ' ∧ character ≠ '\t') : trimBlanks text = text := by
  have front : text.dropWhile (fun character => character == ' ' || character == '\t') = text := by
    rw [List.dropWhile_eq_self_iff]
    intro nonempty
    have first := plain _ (List.getElem_mem nonempty)
    simp [first]
  rw [trimBlanks, Text.trimMatches, front, List.rdropWhile_eq_self_iff]
  intro nonempty
  have last := plain _ (List.getLast_mem nonempty)
  simp [last]

private theorem legacyDigest_leads {headers : HeaderMap} {bytes : List UInt8} {value : List Char}
    (checked : checkLegacyDigest primitives headers (some bytes) = .ok ())
    (combined : combinedHeaderValue headers "digest".toList = .ok value) :
    value.takeWhile (· != ',') = legacyDigest primitives bytes := by
  obtain ⟨given, read, checked⟩ := bind_ok checked
  obtain ⟨digest, present, checked⟩ := bind_ok checked
  have digest_eq : digest = legacyDigest primitives bytes := by simpa using ensure_ok checked
  have present := okOr_ok present
  subst present
  obtain ⟨texts, trimmed, _, rfl⟩ := combinedHeaderValue_ok combined
  unfold headerValue HeaderMap.get at read
  cases values : headers.getAll "digest".toList with
  | nil =>
      rw [values] at read
      cases read
  | cons first rest =>
      rw [values] at read trimmed
      obtain ⟨text, textRead, read⟩ := bind_ok read
      cases read
      obtain ⟨raw, rawRead, trimmed⟩ := bind_ok trimmed
      obtain ⟨later, _, trimmed⟩ := bind_ok trimmed
      cases trimmed
      have same : raw = digest := Option.some.inj ((okOr_ok rawRead).symm.trans (okOr_ok textRead))
      -- the digest has neither blanks to trim nor a comma
      have plain : ∀ character ∈ digest, character ≠ ',' ∧ character ≠ ' ' ∧ character ≠ '\t' := by
        rw [digest_eq]
        exact legacyDigest_plain primitives bytes
      rw [same, trimBlanks_plain fun character member => (plain character member).2]
      have leads : ∀ tail : List Char, (digest ++ ',' :: tail).takeWhile (· != ',') = digest := by
        intro tail
        rw [List.takeWhile_append_of_pos fun character member => by
          simpa using (plain character member).1]
        simp
      cases later with
      | nil =>
          rw [List.intercalate_singleton, ← digest_eq, List.takeWhile_eq_self_iff]
          intro character member
          simpa using (plain character member).1
      | cons next others =>
          rw [List.intercalate_cons_cons, ← digest_eq, List.append_assoc]
          exact leads _

private theorem rfc_lines_no_newline {method : Method} {target : Url} {headers : HeaderMap}
    {components lines : List (List Char)} {params : List Char}
    (labelled : labelledLines componentLabel (componentValue method target.asStr headers) components =
      .ok lines) (paramsFree : '\n' ∉ params) :
    ∀ line ∈ lines ++ ["\"@signature-params\": ".toList ++ params], '\n' ∉ line := by
  intro line member
  rcases List.mem_append.mp member with component | last
  · exact componentLines_no_newline labelled line component
  · rw [List.mem_singleton.mp last, List.mem_append, not_or]
    exact ⟨by decide, paramsFree⟩

def isFieldComponent : SignatureFormat → List Char → Bool
  | .legacy, name => name != requestTarget
  | .rfc9421, name => name != methodComponent && name != targetUriComponent

/-- Everything a format claims to cover is the same in two requests. -/
structure CoversSame (primitives : Primitives PublicKey PrivateKey Ed25519Key)
    (publicBaseUrl : Url) (format : SignatureFormat) (names : List (List Char))
    (first second : Parts) (firstBody secondBody : Option (List UInt8)) : Prop where
  method : Text.eqIgnoreAsciiCase first.method.text second.method.text = true
  target : signedTarget primitives publicBaseUrl format first =
    signedTarget primitives publicBaseUrl format second
  values : ∀ name ∈ names, isFieldComponent format name = true →
    ∃ value, combinedHeaderValue first.headers name = .ok value ∧
      combinedHeaderValue second.headers name = .ok value
  digest : ∀ left right, firstBody = some left → secondBody = some right →
    primitives.sha256 left = primitives.sha256 right

private theorem legacyComponent_field {name text : List Char}
    (computed : legacyComponent parts name = .ok text)
    (field : Text.toAsciiLowercase name ≠ requestTarget) :
    combinedHeaderValue parts.headers (Text.toAsciiLowercase name) = .ok text := by
  unfold legacyComponent at computed
  split at computed
  next target =>
    have same := beq_iff_eq.mp target
    exact absurd (same.trans (by decide)) field
  next => exact combinedHeaderValue_lowercase computed

private theorem legacyComponent_target {name text : List Char}
    (computed : legacyComponent parts name = .ok text)
    (target : Text.toAsciiLowercase name = requestTarget) : text = requestTargetValue parts := by
  have same : Text.eqIgnoreAsciiCase name requestTarget = true := by
    rw [Text.eqIgnoreAsciiCase, target]
    decide
  rw [legacyComponent, if_pos same] at computed
  cases computed
  rfl

private theorem requestTargetValue_inj {first second : Parts}
    (same : requestTargetValue first = requestTargetValue second) :
    Text.toAsciiLowercase first.method.text = Text.toAsciiLowercase second.method.text ∧
      legacyTarget first = legacyTarget second := by
  rw [requestTargetValue_eq, requestTargetValue_eq] at same
  exact Text.append_separator_inj
    (fun space => (isTokenChar_ne (method_lowercase_tokens first.method _ space)).1 rfl)
    (fun space => (isTokenChar_ne (method_lowercase_tokens second.method _ space)).1 rfl) same

private theorem legacy_coversSame {first second : Parts} {firstBody secondBody : Option (List UInt8)}
    {firstCovered secondCovered lines : List (List Char)}
    (firstLines : legacyLines first firstCovered = .ok lines)
    (secondLines : legacyLines second secondCovered = .ok lines)
    (firstRequired : ∀ required ∈ legacyRequired firstBody, ∃ name ∈ firstCovered,
      Text.toAsciiLowercase name = required)
    (firstDigest : checkLegacyDigest primitives first.headers firstBody = .ok ())
    (secondDigest : checkLegacyDigest primitives second.headers secondBody = .ok ()) :
    firstCovered.map Text.toAsciiLowercase = secondCovered.map Text.toAsciiLowercase ∧
      CoversSame primitives publicBaseUrl .legacy (firstCovered.map Text.toAsciiLowercase)
        first second firstBody secondBody := by
  obtain ⟨sameNames, sameValues⟩ := labelledLines_inj Text.toAsciiLowercase firstLines
    secondLines fun _ _ _ _ leftComputed rightComputed same =>
      legacyLabel_split leftComputed rightComputed same
  have sameTarget : requestTargetValue first = requestTargetValue second := by
    obtain ⟨name, member, shown⟩ :=
      firstRequired requestTarget (by cases firstBody <;> simp [legacyRequired])
    obtain ⟨other, _, sameName, text, leftComputed, rightComputed⟩ := sameValues name member
    rw [← legacyComponent_target leftComputed shown,
      ← legacyComponent_target rightComputed (sameName.symm.trans shown)]
  have values : ∀ name ∈ firstCovered.map Text.toAsciiLowercase, name ≠ requestTarget →
      ∃ value, combinedHeaderValue first.headers name = .ok value ∧
        combinedHeaderValue second.headers name = .ok value := by
    intro shown member field
    obtain ⟨name, nameMember, rfl⟩ := List.mem_map.mp member
    obtain ⟨other, _, sameName, text, leftComputed, rightComputed⟩ := sameValues name nameMember
    refine ⟨text, legacyComponent_field leftComputed field, ?_⟩
    rw [sameName] at field ⊢
    exact legacyComponent_field rightComputed field
  obtain ⟨sameMethod, samePath⟩ := requestTargetValue_inj sameTarget
  refine ⟨sameNames, beq_iff_eq.mpr sameMethod, samePath, ?_, ?_⟩
  · intro name member field
    exact values name member (by simpa [isFieldComponent] using field)
  · rintro left right rfl rfl
    obtain ⟨name, member, shown⟩ := firstRequired "digest".toList (by simp [legacyRequired])
    obtain ⟨value, firstValue, secondValue⟩ := values "digest".toList
      (List.mem_map.mpr ⟨name, member, shown⟩) (by decide)
    have same : legacyDigest primitives left = legacyDigest primitives right := by
      rw [← legacyDigest_leads firstDigest firstValue, ← legacyDigest_leads secondDigest secondValue]
    exact Base64.encode_injective (List.append_cancel_left same)

private theorem validateContentDigest_ok {value : List Char} {bytes : List UInt8}
    (combined : combinedHeaderValue parts.headers "content-digest".toList = .ok value)
    (checked : validateContentDigest primitives parts bytes = .ok ()) :
    ∃ digest item, primitives.parseDictionary value = some digest ∧
      lookup digest "sha-256".toList = some (.item item) ∧
      item.bareItem.asByteSequence = some (primitives.sha256 bytes) := by
  simp only [validateContentDigest, combined] at checked
  obtain ⟨digest, parsed, checked⟩ := bind_ok checked
  split at checked
  next item found =>
    have same := ensure_ok checked
    simp only [Bool.and_eq_true, beq_iff_eq] at same
    exact ⟨digest, item, okOr_ok parsed, found, same.2⟩
  next => cases checked

private theorem componentValue_field {method : Method} {targetUri : List Char} {headers : HeaderMap}
    {component text : List Char}
    (computed : componentValue method targetUri headers component = .ok text)
    (notMethod : component ≠ methodComponent) (notTarget : component ≠ targetUriComponent) :
    combinedHeaderValue headers component = .ok text := by
  rw [componentValue, if_neg notMethod, if_neg notTarget] at computed
  split at computed
  · exact computed
  · cases computed

private theorem rfc_coversSame {first second : Parts} {firstBody secondBody : Option (List UInt8)}
    {firstComponents secondComponents lines : List (List Char)}
    (firstLines : labelledLines componentLabel (componentValue first.method
      (inboundTargetUri primitives publicBaseUrl first).asStr first.headers) firstComponents =
        .ok lines)
    (secondLines : labelledLines componentLabel (componentValue second.method
      (inboundTargetUri primitives publicBaseUrl second).asStr second.headers) secondComponents =
        .ok lines)
    (hasMethod : methodComponent ∈ firstComponents)
    (hasTarget : targetUriComponent ∈ firstComponents)
    (firstDigest : checkContentDigest primitives first firstComponents firstBody = .ok ())
    (secondDigest : checkContentDigest primitives second secondComponents secondBody = .ok ()) :
    firstComponents = secondComponents ∧
      CoversSame primitives publicBaseUrl .rfc9421 firstComponents first second
        firstBody secondBody := by
  obtain ⟨sameNames, sameValues⟩ := labelledLines_inj id firstLines secondLines
    fun _ _ _ _ leftComputed rightComputed same =>
      componentLabel_split leftComputed rightComputed same
  rw [List.map_id, List.map_id] at sameNames
  have values : ∀ name ∈ firstComponents, ∃ text,
      componentValue first.method (inboundTargetUri primitives publicBaseUrl first).asStr
        first.headers name = .ok text ∧
      componentValue second.method (inboundTargetUri primitives publicBaseUrl second).asStr
        second.headers name = .ok text := by
    intro name member
    obtain ⟨other, _, sameName, text, leftComputed, rightComputed⟩ := sameValues name member
    have sameName : name = other := sameName
    subst sameName
    exact ⟨text, leftComputed, rightComputed⟩
  have fields : ∀ name ∈ firstComponents, name ≠ methodComponent → name ≠ targetUriComponent →
      ∃ value, combinedHeaderValue first.headers name = .ok value ∧
        combinedHeaderValue second.headers name = .ok value := by
    intro name member notMethod notTarget
    obtain ⟨text, leftComputed, rightComputed⟩ := values name member
    exact ⟨text, componentValue_field leftComputed notMethod notTarget,
      componentValue_field rightComputed notMethod notTarget⟩
  refine ⟨sameNames, ?_, ?_, ?_, ?_⟩
  · obtain ⟨text, leftComputed, rightComputed⟩ := values _ hasMethod
    rw [componentValue, if_pos rfl] at leftComputed rightComputed
    have same : Text.toAsciiUppercase first.method.text = Text.toAsciiUppercase second.method.text :=
      (Except.ok.inj leftComputed).trans (Except.ok.inj rightComputed).symm
    have lowered := congrArg Text.toAsciiLowercase same
    rw [Text.toAsciiLowercase_toAsciiUppercase, Text.toAsciiLowercase_toAsciiUppercase] at lowered
    exact beq_iff_eq.mpr lowered
  · obtain ⟨text, leftComputed, rightComputed⟩ := values _ hasTarget
    rw [componentValue, if_neg (by decide), if_pos rfl] at leftComputed rightComputed
    exact (Except.ok.inj leftComputed).trans (Except.ok.inj rightComputed).symm
  · intro name member field
    simp only [isFieldComponent, Bool.and_eq_true, bne_iff_ne] at field
    exact fields name member field.1 field.2
  · rintro left right rfl rfl
    obtain ⟨_, covers, firstDigest⟩ := bind_ok firstDigest
    obtain ⟨_, _, secondDigest⟩ := bind_ok secondDigest
    have member : "content-digest".toList ∈ firstComponents := by simpa using ensure_ok covers
    obtain ⟨value, firstValue, secondValue⟩ := fields _ member (by decide) (by decide)
    obtain ⟨leftParsed, leftItem, leftDictionary, leftFound, leftBytes⟩ :=
      validateContentDigest_ok firstValue firstDigest
    obtain ⟨rightParsed, rightItem, rightDictionary, rightFound, rightBytes⟩ :=
      validateContentDigest_ok secondValue secondDigest
    have sameParsed : leftParsed = rightParsed :=
      Option.some.inj (leftDictionary.symm.trans rightDictionary)
    subst sameParsed
    have sameItem : leftItem = rightItem := by
      have found := Option.some.inj (leftFound.symm.trans rightFound)
      cases found
      rfl
    subst sameItem
    exact Option.some.inj (leftBytes.symm.trans rightBytes)

/-- Two accepted requests with one signature text agree in everything that the
text claims to cover. -/
theorem equal_base_coversSame {first second : Parts} {firstBody secondBody : Option (List UInt8)}
    {firstNow secondNow : Int} {firstFormat secondFormat : SignatureFormat}
    {firstCover secondCover : Coverage}
    (firstAccepted : verifyActorKey primitives firstNow first firstBody publicBaseUrl expectedKeyId
      algorithm publicKey = .ok firstFormat)
    (secondAccepted : verifyActorKey primitives secondNow second secondBody publicBaseUrl
      expectedKeyId algorithm publicKey = .ok secondFormat)
    (firstComputed : coverage primitives publicBaseUrl first = .ok firstCover)
    (secondComputed : coverage primitives publicBaseUrl second = .ok secondCover)
    (same : firstCover.base = secondCover.base) :
    firstFormat = secondFormat ∧ firstCover.names = secondCover.names ∧
      CoversSame primitives publicBaseUrl firstFormat firstCover.names first second
        firstBody secondBody := by
  rcases verifyActorKey_ok firstAccepted with ⟨firstPresent, rfl, firstVerified⟩ |
      ⟨firstAbsent, rfl, _, _, firstVerified⟩ <;>
    rcases verifyActorKey_ok secondAccepted with ⟨secondPresent, rfl, secondVerified⟩ |
      ⟨secondAbsent, rfl, _, _, secondVerified⟩
  · obtain ⟨_, _, firstLines, firstLabelled, firstParams, rfl, hasMethod, hasTarget, firstDigest⟩ :=
      rfc_coverage firstPresent firstVerified firstComputed
    obtain ⟨_, _, secondLines, secondLabelled, secondParams, rfl, _, _, secondDigest⟩ :=
      rfc_coverage secondPresent secondVerified secondComputed
    have lines := Text.intercalate_lines_inj
      (rfc_lines_no_newline firstLabelled firstParams)
      (rfc_lines_no_newline secondLabelled secondParams) (by simp) (by simp) same
    have sameLines : firstLines = secondLines := List.append_inj_left' lines rfl
    subst sameLines
    exact ⟨rfl, rfc_coversSame firstLabelled secondLabelled hasMethod hasTarget firstDigest
      secondDigest⟩
  · obtain ⟨_, _, _, firstLabelled, _, rfl, _⟩ :=
      rfc_coverage firstPresent firstVerified firstComputed
    obtain ⟨_, _, secondBased, secondSome, rfl, _⟩ :=
      legacy_coverage secondAbsent secondVerified secondComputed
    have quoted := (congrArg List.head? same).symm.trans (rfc_base_head firstLabelled)
    exact absurd quoted (legacy_base_head secondBased secondSome)
  · obtain ⟨_, _, firstBased, firstSome, rfl, _⟩ :=
      legacy_coverage firstAbsent firstVerified firstComputed
    obtain ⟨_, _, _, secondLabelled, _, rfl, _⟩ :=
      rfc_coverage secondPresent secondVerified secondComputed
    have quoted := (congrArg List.head? same).trans (rfc_base_head secondLabelled)
    exact absurd quoted (legacy_base_head firstBased firstSome)
  · obtain ⟨_, firstLines, firstBased, firstSome, rfl, firstRequired, firstDigest⟩ :=
      legacy_coverage firstAbsent firstVerified firstComputed
    obtain ⟨_, secondLines, secondBased, secondSome, rfl, _, secondDigest⟩ :=
      legacy_coverage secondAbsent secondVerified secondComputed
    have sameLines : firstLines = secondLines := Text.intercalate_lines_inj
      (legacyLines_no_newline firstBased) (legacyLines_no_newline secondBased) firstSome secondSome
      same
    subst sameLines
    exact ⟨rfl, legacy_coversSame firstBased secondBased firstRequired firstDigest secondDigest⟩

theorem equal_base_coversSame_userAgent :
    (coverage Sample.primitives Sample.here (Sample.request .rfc9421 Sample.here)).toOption =
        (coverage Sample.primitives Sample.here
          (Sample.requestWithField .rfc9421 Sample.here)).toOption ∧
      CoversSame Sample.primitives Sample.here .rfc9421
        ["@method".toList, "@target-uri".toList, "content-digest".toList]
        (Sample.request .rfc9421 Sample.here) (Sample.requestWithField .rfc9421 Sample.here)
        (some Sample.body) (some Sample.body) := by
  have secondAccepted : verifyActorKey Sample.primitives Sample.now
      (Sample.requestWithField .rfc9421 Sample.here) (some Sample.body) Sample.here Sample.keyId
        .rsaPkcs1Sha256 Sample.key = .ok .rfc9421 := by decide +kernel
  have same : coverage Sample.primitives Sample.here (Sample.request .rfc9421 Sample.here) =
      coverage Sample.primitives Sample.here (Sample.requestWithField .rfc9421 Sample.here) := by
    decide +kernel
  have names : (coverage Sample.primitives Sample.here
      (Sample.request .rfc9421 Sample.here)).map Coverage.names =
        .ok ["@method".toList, "@target-uri".toList, "content-digest".toList] := by decide +kernel
  obtain ⟨cover, computed⟩ : ∃ cover, coverage Sample.primitives Sample.here
      (Sample.request .rfc9421 Sample.here) = .ok cover := by
    cases computed : coverage Sample.primitives Sample.here (Sample.request .rfc9421 Sample.here) with
    | error error =>
        rw [computed] at names
        cases names
    | ok cover => exact ⟨cover, rfl⟩
  refine ⟨congrArg Except.toOption same, ?_⟩
  rw [computed] at names
  have shown := Except.ok.inj names
  rw [← shown]
  exact (equal_base_coversSame Sample.rfc9421_accepted secondAccepted computed (same ▸ computed)
    rfl).2.2

/-!
## The named server
-/

/-- The text names the authority of a server, in the line of the covered target
or of the covered host. -/
def NamesServer (publicBaseUrl : Url) (cover : Coverage) : Prop :=
  match cover.format with
  | .rfc9421 => ∃ target : Url, authority target = authority publicBaseUrl ∧
      componentLabel targetUriComponent ++ target.asStr ∈ cover.base.splitOn '\n'
  | .legacy => ∃ host, authority publicBaseUrl = .ok host ∧
      legacyLabel "host".toList ++ host ∈ cover.base.splitOn '\n'

private theorem rfc_namesServer {components lines : List (List Char)} {params : List Char}
    (labelled : labelledLines componentLabel (componentValue parts.method
      (inboundTargetUri primitives publicBaseUrl parts).asStr parts.headers) components = .ok lines)
    (paramsFree : '\n' ∉ params) (hasTarget : targetUriComponent ∈ components) :
    NamesServer publicBaseUrl ⟨.rfc9421, components,
      ['\n'].intercalate (lines ++ ["\"@signature-params\": ".toList ++ params])⟩ := by
  refine ⟨inboundTargetUri primitives publicBaseUrl parts, rfl, ?_⟩
  rw [List.splitOn_intercalate '\n' (rfc_lines_no_newline labelled paramsFree) (by simp)]
  apply List.mem_append_left
  exact (labelledLines_mem labelled).mpr ⟨targetUriComponent, hasTarget, _, by
    rw [componentValue, if_neg (by decide), if_pos rfl], rfl⟩

private theorem labelledLines_value {label : List Char → List Char}
    {value : List Char → Except SignatureError (List Char)} {names lines : List (List Char)}
    (success : labelledLines label value names = .ok lines) {name : List Char}
    (member : name ∈ names) : ∃ text, value name = .ok text := by
  have shape := labelledLines_ok success
  clear success
  induction shape with
  | nil => cases member
  | cons found _ ih =>
      rcases List.mem_cons.mp member with rfl | later
      · obtain ⟨text, computed, _⟩ := found
        exact ⟨text, computed⟩
      · exact ih later

private theorem legacy_namesServer {covered lines : List (List Char)}
    (based : legacyLines parts covered = .ok lines) (some : lines ≠ [])
    (hasHost : ∃ name ∈ covered, Text.toAsciiLowercase name = "host".toList) :
    NamesServer publicBaseUrl
        ⟨.legacy, covered.map Text.toAsciiLowercase, ['\n'].intercalate lines⟩ ↔
      combinedHeaderValue parts.headers "host".toList = authority publicBaseUrl := by
  unfold NamesServer
  simp only [List.splitOn_intercalate '\n' (legacyLines_no_newline based) some]
  obtain ⟨name, member, shown⟩ := hasHost
  obtain ⟨text, computed⟩ := labelledLines_value based member
  have host : combinedHeaderValue parts.headers "host".toList = .ok text := by
    rw [← shown]
    exact legacyComponent_field computed (by rw [shown]; decide)
  constructor
  · rintro ⟨named, isAuthority, line⟩
    obtain ⟨other, _, otherText, otherComputed, same⟩ := (labelledLines_mem based).mp line
    have label : legacyLabel "host".toList = legacyLabel name := by
      simp only [legacyLabel, shown]
      decide
    rw [isAuthority]
    have shape : ∀ name text : List Char, legacyLabel name ++ text =
        Text.toAsciiLowercase name ++ ':' :: ' ' :: text := by
      intro name text
      simp [legacyLabel]
    rw [label, shape, shape] at same
    obtain ⟨sameName, sameRest⟩ := Text.append_separator_inj
      (fun colon => (isLabelChar_ne ((legacyComponent_name computed).2 _ colon)).1 rfl)
      (fun colon => (isLabelChar_ne ((legacyComponent_name otherComputed).2 _ colon)).1 rfl) same
    have sameText : named = otherText := List.tail_eq_of_cons_eq sameRest
    have otherHost := legacyComponent_field otherComputed (by rw [← sameName, shown]; decide)
    rw [← sameName, shown] at otherHost
    rw [otherHost, sameText]
  · intro isAuthority
    refine ⟨text, by rw [← isAuthority, host], (labelledLines_mem based).mpr ?_⟩
    refine ⟨name, member, text, computed, ?_⟩
    simp only [legacyLabel, shown]
    rfl

/-- An accepted request with a body names this server exactly when it is signed
in the RFC 9421 format or its `Host` is this server's authority. -/
theorem accepted_namesServer_iff {bytes : List UInt8} {cover : Coverage}
    (accepted : verifyActorKey primitives now parts (some bytes) publicBaseUrl expectedKeyId
      algorithm publicKey = .ok format)
    (computed : coverage primitives publicBaseUrl parts = .ok cover) :
    NamesServer publicBaseUrl cover ↔
      parts.headers.containsKey signatureInput = true ∨
        combinedHeaderValue parts.headers "host".toList = authority publicBaseUrl := by
  rcases verifyActorKey_ok accepted with ⟨present, _, verified⟩ | ⟨absent, _, _, _, verified⟩
  · obtain ⟨_, _, _, labelled, paramsFree, rfl, _, hasTarget, _⟩ :=
      rfc_coverage present verified computed
    exact iff_of_true (rfc_namesServer labelled paramsFree hasTarget) (.inl present)
  · obtain ⟨_, _, based, some, rfl, required, _⟩ := legacy_coverage absent verified computed
    rw [legacy_namesServer based some (required "host".toList (by simp [legacyRequired]))]
    simp [absent]

/-- What the legacy signature of a delivery to another server covers. -/
def Sample.elsewhereCover : Coverage where
  format := .legacy
  names := ["(request-target)".toList, "host".toList, "date".toList, "digest".toList]
  base := "(request-target): post /inbox\nhost: other.example\n".toList ++
    "date: Tue, 14 Nov 2023 22:13:20 GMT\n".toList ++
    "digest: SHA-256=RBNvo1WzZ4oRRq0W9+hknpT7T8If536DEMBg9hyq/4o=".toList

private theorem Sample.elsewhere_coverage :
    coverage Sample.primitives Sample.here (Sample.request .legacy Sample.elsewhere) =
      .ok Sample.elsewhereCover := by decide +kernel

theorem accepted_for_another_server :
    verifyActorKey Sample.primitives Sample.now (Sample.request .legacy Sample.elsewhere)
        (some Sample.body) Sample.here Sample.keyId .rsaPkcs1Sha256 Sample.key = .ok .legacy ∧
      coverage Sample.primitives Sample.here (Sample.request .legacy Sample.elsewhere) =
        .ok Sample.elsewhereCover ∧
      ¬ NamesServer Sample.here Sample.elsewhereCover := by
  refine ⟨Sample.elsewhere_accepted, Sample.elsewhere_coverage, ?_⟩
  rintro ⟨host, isAuthority, line⟩
  cases isAuthority
  revert line
  decide +kernel

theorem accepted_namesServer_iff_elsewhere :
    NamesServer Sample.here Sample.elsewhereCover ↔
      (Sample.request .legacy Sample.elsewhere).headers.containsKey signatureInput = true ∨
        combinedHeaderValue (Sample.request .legacy Sample.elsewhere).headers "host".toList =
          authority Sample.here :=
  accepted_namesServer_iff Sample.elsewhere_accepted Sample.elsewhere_coverage

/-!
## Acceptance
-/

/-- What an accepted request with `Signature-Input` satisfies. -/
structure AcceptedInput (primitives : Primitives PublicKey PrivateKey Ed25519Key) (now : Int)
    (parts : Parts) (body : Option (List UInt8)) (keyId : List Char)
    (algorithm : ActorKeyAlgorithm) (inputs signatures : Dictionary) (label : Key)
    (input : InnerList) (signature : List UInt8) (components : List (List Char)) : Prop where
  oneInput : inputs = [(label, .innerList input)]
  oneSignature : signatures = [(label, .item ⟨.byteSequence signature, []⟩)]
  plainComponents : List.Forall₂ (fun (item : Item) component =>
    item.params = [] ∧ item.bareItem.asString = some component) input.items components
  distinct : components.Nodup
  supported : ∀ component ∈ components, Text.toAsciiLowercase component = component ∧
    (component = methodComponent ∨ component = targetUriComponent ∨
      (isHeaderName component = true ∧ ∃ entry ∈ parts.headers.entries, entry.1.text = component))
  coversMethod : methodComponent ∈ components
  coversTarget : targetUriComponent ∈ components
  coversDigest : body.isSome = true → "content-digest".toList ∈ components
  keyNamed : (lookup input.params "keyid".toList).bind BareItem.asString = some keyId
  algorithmNamed : ∀ item, lookup input.params "alg".toList = some item →
    item.asString = some algorithm.expected.asStr
  recent : ∃ created, (lookup input.params "created".toList).bind BareItem.asInteger =
    some created ∧ (now - created * secondNanos).natAbs ≤ clockSkew

private theorem verifyRfc9421Key_acceptedInput
    (verified : verifyRfc9421Key primitives now parts body publicBaseUrl expectedKeyId algorithm
      publicKey = .ok ()) :
    ∃ parsed inputText signatureText inputs signatures label,
      parseRfc9421 primitives parts = .ok parsed ∧ parsed.keyId = expectedKeyId ∧
      combinedHeaderValue parts.headers signatureInput = .ok inputText ∧
      combinedHeaderValue parts.headers "signature".toList = .ok signatureText ∧
      primitives.parseDictionary inputText = some inputs ∧
      primitives.parseDictionary signatureText = some signatures ∧
      AcceptedInput primitives now parts body expectedKeyId algorithm inputs signatures label
        parsed.input parsed.signature parsed.components := by
  obtain ⟨parsed, base, parsing, algorithmAgrees, fresh, sameKey, hasMethod, hasTarget, digest,
    based, _⟩ := verifyRfc9421Key_ok verified
  obtain ⟨inputText, signatureText, label, created, inputRead, signatureRead, inputParsed,
    signatureParsed, createdRead, timed, keyRead, algorithmRead, componentsRead⟩ :=
      parseRfc9421_ok parsing
  obtain ⟨plain, distinct, _, supported⟩ := parseComponents_ok componentsRead
  obtain ⟨lines, labelled, _⟩ := bind_ok based
  refine ⟨parsed, inputText, signatureText, _, _, label, parsing, sameKey, inputRead,
    signatureRead, inputParsed, signatureParsed, rfl, rfl, plain, distinct, ?_, hasMethod,
    hasTarget, ?_, sameKey ▸ keyRead, ?_, created, createdRead, timed ▸ fresh⟩
  · intro component member
    obtain ⟨lower, kind⟩ := supported component member
    refine ⟨lower, ?_⟩
    by_cases notMethod : component = methodComponent
    · exact .inl notMethod
    · by_cases notTarget : component = targetUriComponent
      · exact .inr (.inl notTarget)
      · rcases kind with isMethod | isTarget | ⟨_, valid⟩
        · exact absurd isMethod notMethod
        · exact absurd isTarget notTarget
        · obtain ⟨text, computed⟩ := labelledLines_value labelled member
          obtain ⟨entry, stored, same⟩ :=
            combinedHeaderValue_present (componentValue_field computed notMethod notTarget)
          exact .inr (.inr ⟨valid, entry, stored, same.trans lower⟩)
  · intro given
    obtain ⟨bytes, rfl⟩ := Option.isSome_iff_exists.mp given
    obtain ⟨_, covers, _⟩ := bind_ok digest
    simpa using ensure_ok covers
  · intro item found
    rcases parseAlgorithm_ok algorithmRead with ⟨none, _⟩ | ⟨bare, named, same, given, read⟩
    · rw [found] at none
      cases none
    · rw [found] at same
      cases same
      rw [read, algorithmAgrees named given]

/-- Identification followed by verification accepts a request with
`Signature-Input` only under the conditions of the RFC 9421 profile, and a
request without it only for the key that identification returned. -/
theorem identity_verify_accepted {identified : SignatureIdentity}
    (identification : identity primitives parts = .ok (some identified))
    (accepted : verifyActorKey primitives now parts body publicBaseUrl expectedKeyId algorithm
      publicKey = .ok format) :
    identified.keyId = expectedKeyId ∧ identified.format = format ∧
      (parts.headers.containsKey signatureInput = false → format = .legacy) ∧
      (parts.headers.containsKey signatureInput = true → format = .rfc9421 ∧
        ∃ inputText signatureText inputs signatures label input signature components,
          combinedHeaderValue parts.headers signatureInput = .ok inputText ∧
          combinedHeaderValue parts.headers "signature".toList = .ok signatureText ∧
          primitives.parseDictionary inputText = some inputs ∧
          primitives.parseDictionary signatureText = some signatures ∧
          AcceptedInput primitives now parts body identified.keyId algorithm inputs signatures
            label input signature components) := by
  rcases verifyActorKey_ok accepted with ⟨present, rfl, verified⟩ | ⟨absent, rfl, _, _, verified⟩
  · obtain ⟨parsed, inputText, signatureText, inputs, signatures, label, parsing, sameKey,
      inputRead, signatureRead, inputParsed, signatureParsed, conditions⟩ :=
        verifyRfc9421Key_acceptedInput verified
    simp only [identity, present, if_true, parsing, ok_bind] at identification
    cases identification
    subst sameKey
    refine ⟨rfl, rfl, ?_, ?_⟩
    · intro absent
      rw [present] at absent
      cases absent
    · intro _
      exact ⟨rfl, inputText, signatureText, inputs, signatures, label, _, _, _, inputRead,
        signatureRead, inputParsed, signatureParsed, conditions⟩
  · obtain ⟨signature, _, read, named, _⟩ := verifyLegacy_ok verified
    simp only [identity, absent, Bool.false_eq_true, if_false, read, ok_bind, named,
      okOr_some] at identification
    cases identification
    refine ⟨rfl, rfl, fun _ => rfl, ?_⟩
    intro present
    rw [absent] at present
    cases present

theorem identity_verify_accepted_sample :
    identity Sample.primitives (Sample.request .rfc9421 Sample.here) =
        .ok (some ⟨.rfc9421, Sample.keyId⟩) ∧
      ∃ inputs signatures label input signature components,
        AcceptedInput Sample.primitives Sample.now (Sample.request .rfc9421 Sample.here)
          (some Sample.body) Sample.keyId .rsaPkcs1Sha256 inputs signatures label input signature
          components := by
  have identification : identity Sample.primitives (Sample.request .rfc9421 Sample.here) =
      .ok (some ⟨.rfc9421, Sample.keyId⟩) := by decide +kernel
  obtain ⟨_, _, _, conditions⟩ :=
    identity_verify_accepted identification Sample.rfc9421_accepted
  obtain ⟨_, _, _, inputs, signatures, label, input, signature, components, _, _, _, _, holds⟩ :=
    conditions (by decide +kernel)
  exact ⟨identification, inputs, signatures, label, input, signature, components, holds⟩

end Roosty.Federation.Signature
