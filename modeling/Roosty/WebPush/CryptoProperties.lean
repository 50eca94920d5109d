import Mathlib.Algebra.Group.Nat.Defs
import Roosty.WebPush.Receiver

/-!
# What is encrypted can be decrypted

A message reaches its subscriber as one record with exactly the plaintext, and a plaintext is
refused only when its body would be too large.
-/

set_option autoImplicit false

namespace Roosty.WebPush

open Library Library.Octets

section

variable {Secret PublicKey : Type} {crates : Primitives Secret PublicKey}

/-- What is assumed of key agreement, key derivation and the cipher. -/
structure Primitives.Correct (crates : Primitives Secret PublicKey) : Prop where
  pointLength : ∀ key, (crates.toSec1Point key).length = 65
  pointParses : ∀ key, crates.fromSec1Bytes (crates.toSec1Point key) = some key
  agreement : ∀ one other, crates.diffieHellman one (crates.publicKey other) =
    crates.diffieHellman other (crates.publicKey one)
  expands : ∀ prk info length, length ≤ 255 * 32 →
    ∃ material, crates.expand prk info length = some material ∧ material.length = length
  encrypts : ∀ key nonce plaintext, key.length = 16 → nonce.length = 12 →
    plaintext.length ≤ 2 ^ 36 - 32 → ∃ ciphertext, crates.encrypt key nonce plaintext =
      some ciphertext ∧ ciphertext.length = plaintext.length + 16
  decrypts : ∀ key nonce plaintext ciphertext, crates.encrypt key nonce plaintext =
    some ciphertext → crates.decrypt key nonce ciphertext = some plaintext

/-!
## Subscriptions
-/

theorem tryInto_some {length : Nat} {bytes : Bytes} {array : OfLength length}
    (converted : tryInto length bytes = some array) : array.val = bytes := by
  unfold tryInto at converted
  split at converted
  · rw [← Option.some.inj converted]
  · cases converted

theorem Subscription.new_ok {endpoint : Network.Url} {p256dh auth : Bytes} {encoding : Encoding}
    {subscription : Subscription}
    (valid : Subscription.new crates endpoint p256dh auth encoding = .ok subscription) :
    subscription.p256dh.val = p256dh ∧ subscription.auth.val = auth ∧
      subscription.encoding = encoding ∧
      (crates.fromSec1Bytes subscription.p256dh).isSome := by
  obtain ⟨_, _, valid⟩ := bind_ok valid
  obtain ⟨key, isKey, valid⟩ := bind_ok valid
  obtain ⟨point, isPoint, valid⟩ := bind_ok valid
  obtain ⟨secret, isSecret, valid⟩ := bind_ok valid
  cases valid
  exact ⟨tryInto_some (okOr_ok isKey), tryInto_some (okOr_ok isSecret), rfl,
    Option.isSome_of_eq_some (okOr_ok isPoint)⟩

/-!
## Key derivation
-/

theorem contentKeyNonce_ok (correct : crates.Correct) (salt ikm keyInfo nonceInfo : Bytes) :
    ∃ key nonce, contentKeyNonce crates salt ikm keyInfo nonceInfo = .ok (key, nonce) ∧
      crates.expand (crates.extract salt ikm) keyInfo 16 = some key ∧
      crates.expand (crates.extract salt ikm) nonceInfo 12 = some nonce ∧
      key.length = 16 ∧ nonce.length = 12 := by
  obtain ⟨key, isKey, keyLength⟩ :=
    correct.expands (crates.extract salt ikm) keyInfo 16 (by decide)
  obtain ⟨nonce, isNonce, nonceLength⟩ :=
    correct.expands (crates.extract salt ikm) nonceInfo 12 (by decide)
  refine ⟨key, nonce, ?_, isKey, isNonce, keyLength, nonceLength⟩
  simp only [contentKeyNonce, isKey, isNonce, okOr_some, ok_bind]
  rfl

/-!
## One record
-/

theorem openContent_single {key nonce content padded text : Bytes}
    {unpad : Bool → Bytes → Option Bytes} {size : Nat}
    (decrypts : crates.decrypt key nonce content = some padded)
    (unpads : unpad true padded = some text) (fits : content.length ≤ size) :
    openContent crates key nonce unpad size content = some [text] := by
  rw [openContent, cut_single fits]
  apply openRecords_single
  rw [maskedBy_zero, decrypts]
  exact unpads

theorem unpadStandard_last (text : Bytes) : unpadStandard true (text ++ [2]) = some text := by
  have reversed : (text ++ [2]).reverse = 2 :: text.reverse := by simp
  rw [unpadStandard, reversed, List.dropWhile_cons_of_neg (by decide)]
  simp

theorem unpadLegacy_unpadded (text : Bytes) : unpadLegacy (toBeBytes 2 0 ++ text) = some text := by
  have none_needed : fromBeBytes ((toBeBytes 2 0 ++ text).take 2) = 0 := by
    rw [List.take_left' (length_toBeBytes 2 0)]
    decide
  rw [unpadLegacy, none_needed]
  simp only [Nat.add_zero, List.take_zero, List.all_nil, and_true, List.length_append,
    length_toBeBytes, Nat.le_add_right, if_true]
  rw [List.drop_left' (length_toBeBytes 2 0)]

/-!
## The standard encoding
-/

theorem standard_header {salt size sender content : Bytes} (saltLength : salt.length = 16)
    (sizeLength : size.length = 4) (senderLength : sender.length = 65) :
    let body := salt ++ size ++ [UInt8.ofNat sender.length] ++ sender ++ content
    body.take 16 = salt ∧ (body.drop 16).take 4 = size ∧ body[20]? = some 65 ∧
      (body.drop 21).take 65 = sender ∧ body.drop (21 + 65) = content := by
  have front : (salt ++ size).length = 20 := by
    rw [List.length_append, saltLength, sizeLength]
  have header : (salt ++ size ++ [UInt8.ofNat sender.length]).length = 21 := by
    rw [List.length_append, front]
    rfl
  intro body
  refine ⟨?_, ?_, ?_, ?_, ?_⟩
  · simp only [body, List.append_assoc]
    exact List.take_left' saltLength
  · simp only [body, List.append_assoc]
    rw [List.drop_left' saltLength]
    exact List.take_left' sizeLength
  · have position : body[20]? = ([UInt8.ofNat sender.length] ++ (sender ++ content))[20 - 20]? := by
      simp only [body, List.append_assoc]
      rw [← List.append_assoc, List.getElem?_append_right (by omega), front]
    rw [position, senderLength]
    rfl
  · simp only [body]
    rw [List.append_assoc, List.drop_left' header]
    exact List.take_left' senderLength
  · have whole : (salt ++ size ++ [UInt8.ofNat sender.length] ++ sender).length = 21 + 65 := by
      rw [List.length_append, header, senderLength]
    exact List.drop_left' whole

theorem encryptStandard_received (correct : crates.Correct) (owner sender : Secret) (auth : Bytes)
    (salt : OfLength 16) {plaintext : Bytes} (small : plaintext.length ≤ 3993) :
    ∃ message, encryptStandard crates (crates.toSec1Point (crates.publicKey owner))
        (crates.toSec1Point (crates.publicKey sender))
        (crates.diffieHellman sender (crates.publicKey owner)) auth salt plaintext = .ok message ∧
      message.contentEncoding = "aes128gcm" ∧ message.body.length = 103 + plaintext.length ∧
      receiveStandard crates owner auth message.body = some ⟨recordSize, [plaintext]⟩ := by
  generalize isReceiver : crates.toSec1Point (crates.publicKey owner) = receiver
  generalize isSender : crates.toSec1Point (crates.publicKey sender) = senderBytes
  have senderLength : senderBytes.length = 65 := isSender ▸ correct.pointLength _
  have senderParses : crates.fromSec1Bytes senderBytes = some (crates.publicKey sender) :=
    isSender ▸ correct.pointParses _
  obtain ⟨ikm, isIkm, _⟩ := correct.expands
    (crates.extract auth (crates.diffieHellman sender (crates.publicKey owner)))
    (ascii "WebPush: info\x00" ++ receiver ++ senderBytes) 32 (by decide)
  obtain ⟨key, nonce, derived, isKey, isNonce, keyLength, nonceLength⟩ :=
    contentKeyNonce_ok correct salt ikm (ascii "Content-Encoding: aes128gcm\x00")
      (ascii "Content-Encoding: nonce\x00")
  have padded : (plaintext ++ [2]).length = plaintext.length + 1 := by simp
  obtain ⟨ciphertext, isCiphertext, size⟩ :=
    correct.encrypts key nonce (plaintext ++ [2]) keyLength nonceLength (by omega)
  have decrypts := correct.decrypts _ _ _ _ isCiphertext
  refine ⟨⟨"aes128gcm", salt.val ++ toBeBytes 4 recordSize ++ [UInt8.ofNat senderBytes.length] ++
    senderBytes ++ ciphertext, []⟩, ?_, rfl, ?_, ?_⟩
  · simp only [encryptStandard, small, decide_true, ensure_true, isIkm, okOr_some, ok_bind, derived,
      isCiphertext]
    rfl
  · simp only [List.length_append, salt.property, length_toBeBytes, List.length_singleton,
      senderLength, size]
    omega
  · obtain ⟨saltFound, sizeFound, idFound, senderFound, contentFound⟩ :=
      @standard_header salt.val (toBeBytes 4 recordSize) senderBytes ciphertext salt.property
        (length_toBeBytes 4 recordSize) senderLength
    have announced : fromBeBytes (toBeBytes 4 recordSize) = recordSize := by
      rw [fromBeBytes_toBeBytes]
      rfl
    have opened := @openContent_single _ _ crates key nonce ciphertext (plaintext ++ [2])
      plaintext unpadStandard recordSize decrypts (unpadStandard_last plaintext)
      (by rw [size, padded, recordSize]; omega)
    have sixtyFive : (65 : UInt8).toNat = 65 := rfl
    have large : 17 < recordSize := by decide
    simp only [receiveStandard, saltFound, sizeFound, idFound, announced, sixtyFive, senderFound,
      contentFound, senderParses, correct.agreement owner sender, isReceiver, isIkm, isKey,
      isNonce, opened, large, guard, if_true, Option.bind_eq_bind, Option.bind_some,
      Option.pure_def]

/-!
## Header parameters
-/

theorem parameter_piece {name : String} {value : List Char} {rest : List (List Char)}
    (unspaced : name.toList.head?.any (· != ' ')) :
    (((name.toList ++ '=' :: value) :: rest).firstM fun piece =>
      (name.toList ++ ['=']).isPrefixOf? (piece.dropWhile (· == ' '))) = some value := by
  have kept : (name.toList ++ '=' :: value).dropWhile (· == ' ') = name.toList ++ '=' :: value := by
    cases letters : name.toList with
    | nil => simp [letters] at unspaced
    | cons first others =>
        rw [letters, List.head?_cons, Option.any_some] at unspaced
        exact List.dropWhile_cons_of_neg (by simpa using unspaced)
  have found : (name.toList ++ ['=']).isPrefixOf? (name.toList ++ '=' :: value) = some value := by
    rw [List.isPrefixOf?_eq_some_iff_append_eq, List.append_assoc]
    rfl
  rw [List.firstM, kept, found]
  rfl

theorem parameter_only {name : String} {value : List Char}
    (unspaced : name.toList.head?.any (· != ' ')) (free : ';' ∉ name.toList ++ '=' :: value) :
    parameter name (name.toList ++ '=' :: value) = some value := by
  rw [parameter, List.splitOn_eq_singleton free]
  exact parameter_piece unspaced

theorem parameter_first {name : String} {value : List Char}
    (unspaced : name.toList.head?.any (· != ' ')) (free : ';' ∉ name.toList ++ '=' :: value)
    (rest : List Char) :
    parameter name (name.toList ++ '=' :: value ++ ';' :: rest) = some value := by
  rw [parameter, List.splitOn_append_cons_self_of_not_mem free]
  exact parameter_piece unspaced

theorem parameter_second {name : String} {piece rest : List Char} (free : ';' ∉ piece)
    (other : (name.toList ++ ['=']).isPrefixOf? (piece.dropWhile (· == ' ')) = none) :
    parameter name (piece ++ ';' :: rest) = parameter name rest := by
  rw [parameter, List.splitOn_append_cons_self_of_not_mem free, List.firstM, other]
  rfl

theorem encodeUrl_free {name : List Char} (free : ';' ∉ name) (bytes : Bytes) :
    ';' ∉ name ++ '=' :: Base64.encodeUrl bytes := by
  intro member
  rcases List.mem_append.mp member with inName | later
  · exact free inName
  · rcases List.mem_cons.mp later with equal | inValue
    · exact absurd equal (by decide)
    · exact (Base64.encodeUrl_alphabet bytes _ inValue).1 rfl

theorem encryption_parameters (salt : Bytes) :
    parameter "salt" ("salt=".toList ++ Base64.encodeUrl salt ++ ";rs=".toList ++
        Nat.toDigits 10 recordSize) = some (Base64.encodeUrl salt) ∧
      announcedSize ("salt=".toList ++ Base64.encodeUrl salt ++ ";rs=".toList ++
        Nat.toDigits 10 recordSize) = some recordSize := by
  have shape : "salt=".toList ++ Base64.encodeUrl salt ++ ";rs=".toList ++
      Nat.toDigits 10 recordSize =
        "salt".toList ++ '=' :: Base64.encodeUrl salt ++ ';' :: "rs=4096".toList := by
    have digits : Nat.toDigits 10 recordSize = "4096".toList := by decide
    rw [digits]
    simp
  rw [shape]
  have free := @encodeUrl_free "salt".toList (by decide) salt
  constructor
  · exact parameter_first (by decide) free _
  · have skipped : parameter "rs" ("salt".toList ++ '=' :: Base64.encodeUrl salt ++
        ';' :: "rs=4096".toList) = parameter "rs" "rs=4096".toList :=
      parameter_second free (by simp [List.isPrefixOf?])
    rw [announcedSize, skipped]
    decide

/-!
## The legacy encoding
-/

/-- The headers as they are emitted, or as the request carries them. -/
def Carries (emitted sent : List (String × List Char)) : Prop :=
  sent = emitted ∨ ∃ vapidPublicKey, sent = requestHeaders vapidPublicKey emitted

theorem legacy_parameters {salt : Bytes} {sender : Bytes} {sent : List (String × List Char)}
    (carries : Carries
      [("Encryption", "salt=".toList ++ Base64.encodeUrl salt ++ ";rs=".toList ++
          Nat.toDigits 10 recordSize),
        ("Crypto-Key", "dh=".toList ++ Base64.encodeUrl sender)] sent) :
    sent.lookup "Encryption" = some ("salt=".toList ++ Base64.encodeUrl salt ++ ";rs=".toList ++
        Nat.toDigits 10 recordSize) ∧
      ∃ cryptoKey, sent.lookup "Crypto-Key" = some cryptoKey ∧
        parameter "dh" cryptoKey = some (Base64.encodeUrl sender) := by
  have free := @encodeUrl_free "dh".toList (by decide) sender
  rcases carries with rfl | ⟨vapidPublicKey, rfl⟩
  · exact ⟨rfl, _, rfl, parameter_only (by decide) free⟩
  · refine ⟨rfl, _, rfl, ?_⟩
    have shape : "dh=".toList ++ Base64.encodeUrl sender ++ "; p256ecdsa=".toList ++
        Base64.encodeUrl vapidPublicKey = "dh".toList ++ '=' :: Base64.encodeUrl sender ++
          ';' :: (" p256ecdsa=".toList ++ Base64.encodeUrl vapidPublicKey) := by
      simp
    rw [shape]
    exact parameter_first (by decide) free _

theorem encryptLegacy_received (correct : crates.Correct) (owner sender : Secret) (auth : Bytes)
    (salt : OfLength 16) {plaintext : Bytes} (small : plaintext.length ≤ 4078) :
    ∃ message, encryptLegacy crates (crates.toSec1Point (crates.publicKey owner))
        (crates.toSec1Point (crates.publicKey sender))
        (crates.diffieHellman sender (crates.publicKey owner)) auth salt plaintext = .ok message ∧
      message.contentEncoding = "aesgcm" ∧ message.body.length = 18 + plaintext.length ∧
      ∀ sent, Carries message.extraHeaders sent →
        receiveLegacy crates owner auth sent message.body = some ⟨recordSize, [plaintext]⟩ := by
  generalize isReceiver : crates.toSec1Point (crates.publicKey owner) = receiver
  generalize isSender : crates.toSec1Point (crates.publicKey sender) = senderBytes
  have senderParses : crates.fromSec1Bytes senderBytes = some (crates.publicKey sender) :=
    isSender ▸ correct.pointParses _
  obtain ⟨ikm, isIkm, _⟩ := correct.expands
    (crates.extract auth (crates.diffieHellman sender (crates.publicKey owner)))
    (ascii "Content-Encoding: auth\x00") 32 (by decide)
  obtain ⟨key, nonce, derived, isKey, isNonce, keyLength, nonceLength⟩ :=
    contentKeyNonce_ok correct salt ikm
      (ascii "Content-Encoding: aesgcm\x00" ++ legacyContext receiver senderBytes)
      (ascii "Content-Encoding: nonce\x00" ++ legacyContext receiver senderBytes)
  have padded : (toBeBytes 2 0 ++ plaintext).length = 2 + plaintext.length := by
    rw [List.length_append, length_toBeBytes]
  obtain ⟨ciphertext, isCiphertext, size⟩ :=
    correct.encrypts key nonce (toBeBytes 2 0 ++ plaintext) keyLength nonceLength (by omega)
  have decrypts := correct.decrypts _ _ _ _ isCiphertext
  refine ⟨⟨"aesgcm", ciphertext, [("Encryption", "salt=".toList ++ Base64.encodeUrl salt ++
      ";rs=".toList ++ Nat.toDigits 10 recordSize),
    ("Crypto-Key", "dh=".toList ++ Base64.encodeUrl senderBytes)]⟩, ?_, rfl, ?_, ?_⟩
  · simp only [encryptLegacy, small, decide_true, ensure_true, isIkm, okOr_some, ok_bind, derived,
      isCiphertext]
    rfl
  · simp only [size, padded]
    omega
  · intro sent carries
    obtain ⟨isEncryption, cryptoKey, isCryptoKey, isDh⟩ := legacy_parameters carries
    obtain ⟨isSalt, announced⟩ := encryption_parameters salt.val
    have opened := @openContent_single _ _ crates key nonce ciphertext (toBeBytes 2 0 ++ plaintext)
      plaintext (fun _ => unpadLegacy) (recordSize + 16) decrypts (unpadLegacy_unpadded plaintext)
      (by rw [size, padded, recordSize]; omega)
    have last : guard (salt.val.length = 16 ∧ 2 < recordSize ∧
        ciphertext.length % (recordSize + 16) ≠ 0) = some () := by
      refine if_pos ⟨salt.property, by decide, ?_⟩
      rw [size, padded, recordSize, Nat.mod_eq_of_lt (by omega)]
      omega
    have context : ascii "P-256\x00" ++ toBeBytes 2 receiver.length ++ receiver ++
        toBeBytes 2 senderBytes.length ++ senderBytes = legacyContext receiver senderBytes := rfl
    simp only [receiveLegacy, isEncryption, isCryptoKey, isSalt, announced, isDh,
      Base64.decodeUrl_encodeUrl, last, senderParses,
      correct.agreement owner sender, isReceiver, isIkm, context, isKey, isNonce, opened,
      Option.bind_eq_bind, Option.bind_some, Option.pure_def]

/-!
## Both encodings
-/

def bodySize : Encoding → Nat → Nat
  | .aes128Gcm, plaintext => 16 + 4 + 1 + 65 + (plaintext + 1 + 16)
  | .aesGcm, plaintext => 2 + plaintext + 16

/-- The subscriber decrypts what is sent to it, as a single record. A plaintext is refused
when its body would exceed 4096 bytes. -/
theorem encrypt_decodable (correct : crates.Correct) {endpoint : Network.Url}
    {p256dh auth : Bytes} {encoding : Encoding} {subscription : Subscription} {owner : Secret}
    (valid : Subscription.new crates endpoint p256dh auth encoding = .ok subscription)
    (owned : crates.toSec1Point (crates.publicKey owner) = p256dh)
    (sender : Secret) (salt : OfLength 16) (plaintext : Bytes) :
    (encrypt crates (some sender) (some salt) subscription plaintext = .error .payloadTooLarge ∧
      4096 < bodySize encoding plaintext.length) ∨
    ∃ message, encrypt crates (some sender) (some salt) subscription plaintext = .ok message ∧
      message.body.length = bodySize encoding plaintext.length ∧ message.body.length ≤ 4096 ∧
      ∀ sent, Carries message.extraHeaders sent →
        receive crates owner auth message.contentEncoding sent message.body =
          some ⟨4096, [plaintext]⟩ := by
  obtain ⟨isKey, isAuth, rfl, _⟩ := Subscription.new_ok valid
  have parses : crates.fromSec1Bytes subscription.p256dh = some (crates.publicKey owner) := by
    rw [isKey, ← owned]
    exact correct.pointParses _
  cases isEncoding : subscription.encoding with
  | aes128Gcm =>
      have calls : encrypt crates (some sender) (some salt) subscription plaintext =
          encryptStandard crates (crates.toSec1Point (crates.publicKey owner))
            (crates.toSec1Point (crates.publicKey sender))
            (crates.diffieHellman sender (crates.publicKey owner)) auth salt plaintext := by
        rw [owned, ← isKey, ← isAuth]
        simp only [encrypt, parses, okOr_some, ok_bind, isEncoding]
      rw [calls]
      by_cases small : plaintext.length ≤ 3993
      · obtain ⟨message, encrypted, named, size, received⟩ :=
          encryptStandard_received correct owner sender auth salt small
        refine .inr ⟨message, encrypted, ?_, by omega, ?_⟩
        · rw [size, bodySize]
          omega
        · intro sent _
          rw [receive, named, if_pos rfl]
          exact received
      · refine .inl ⟨?_, ?_⟩
        · rw [encryptStandard, decide_eq_false small]
          rfl
        · rw [bodySize]
          omega
  | aesGcm =>
      have calls : encrypt crates (some sender) (some salt) subscription plaintext =
          encryptLegacy crates (crates.toSec1Point (crates.publicKey owner))
            (crates.toSec1Point (crates.publicKey sender))
            (crates.diffieHellman sender (crates.publicKey owner)) auth salt plaintext := by
        rw [owned, ← isKey, ← isAuth]
        simp only [encrypt, parses, okOr_some, ok_bind, isEncoding]
      rw [calls]
      by_cases small : plaintext.length ≤ 4078
      · obtain ⟨message, encrypted, named, size, received⟩ :=
          encryptLegacy_received correct owner sender auth salt small
        refine .inr ⟨message, encrypted, ?_, by omega, ?_⟩
        · rw [size, bodySize]
          omega
        · intro sent carries
          rw [receive, named, if_neg (by decide), if_pos rfl]
          exact received sent carries
      · refine .inl ⟨?_, ?_⟩
        · rw [encryptLegacy, decide_eq_false small]
          rfl
        · rw [bodySize]
          omega

end

/-!
## A known message

The example of the message encryption, whose body the tests fix. Only its keys are known
here, the true one being the sender's, and only its derivations are the real ones.
-/

namespace Known

def senderKey : Bytes :=
  toBeBytes 33 0x04fe33f4ab0dea71914db55823f73b54948f41306d920732dbb9a59a5328648220 ++
    toBeBytes 32 0x0e597a7b7bc260ba1c227998580992e93973002f3012a28ae8f06bbb78e5ec0f

def receiverKey : Bytes :=
  toBeBytes 33 0x042571b2becdfde360551aaf1ed0f4cd366c11cebe555f89bcb7b186a533391731 ++
    toBeBytes 32 0x68ece2ebe018597bd30479b86e3c8f8eced577ca59187e9246990db682008b0e

def shared : Bytes :=
  toBeBytes 32 0x932acbd63208387133837b0cd995911c3441eb66000998614a592727aef6912b

def auth : Bytes := toBeBytes 16 0x05305932a1c7eabe13b6cec9fda48882

def salt : OfLength 16 := ⟨toBeBytes 16 0x0c6bfaadad67958803092d454676f397, by decide⟩

def authPrk : Bytes :=
  toBeBytes 32 0x4a7af724cc5a1d50d71d6267e70742e765a3a42b5dd84204181ca40dc656df69

def ikm : Bytes := toBeBytes 32 0x4b895831bfcbd05c427aad16843c7cd772a0498a94dba90ecb359476c5d8cab8

def prk : Bytes := toBeBytes 32 0xd3dfde5191abb2fc428430864427642e20d7ad178638455e48274270f0522527

def key : Bytes := toBeBytes 16 0xa088555b4e0c45dcb65cdf4288a2f14e

def nonce : Bytes := toBeBytes 12 0xe21ffde6495727913faa7a0d

def plaintext : Bytes := ascii "When I grow up, I want to be a watermelon"

def ciphertext : Bytes :=
  toBeBytes 29 0xf297de5b429bba7153d3a4ae0caa091fd425f3b4b5414add8ab37a19c1 ++
    toBeBytes 29 0xbbb05cf5cb5b2a2e0562d558635641ec52812c6c8ff42e95ccb86be7cd

def body : Bytes :=
  toBeBytes 36 0x0c6bfaadad67958803092d454676f397000010004104fe33f4ab0dea71914db55823f73b ++
    toBeBytes 36 0x54948f41306d920732dbb9a59a53286482200e597a7b7bc260ba1c227998580992e93973 ++
    toBeBytes 36 0x002f3012a28ae8f06bbb78e5ec0ff297de5b429bba7153d3a4ae0caa091fd425f3b4b541 ++
    toBeBytes 36 0x4add8ab37a19c1bbb05cf5cb5b2a2e0562d558635641ec52812c6c8ff42e95ccb86be7cd

/-- Sixteen zeros in place of every other tag. -/
def tag : Bytes := List.replicate 16 0

def expanded (secret info : Bytes) (length : Nat) : Bytes :=
  if secret = authPrk ∧ info = ascii "WebPush: info\x00" ++ receiverKey ++ senderKey ∧
    length = 32 then ikm
  else if secret = prk ∧ info = ascii "Content-Encoding: aes128gcm\x00" ∧ length = 16 then key
  else if secret = prk ∧ info = ascii "Content-Encoding: nonce\x00" ∧ length = 12 then nonce
  else List.replicate length 0

def crates : Primitives Bool Bool where
  fromSec1Bytes bytes :=
    if bytes = senderKey then some true else if bytes = receiverKey then some false else none
  toSec1Point isSender := if isSender then senderKey else receiverKey
  publicKey isSender := isSender
  diffieHellman one other := if one = other then List.replicate 32 0 else shared
  extract salted secret :=
    if salted = auth ∧ secret = shared then authPrk
    else if salted = salt.val ∧ secret = ikm then prk
    else List.replicate 32 0
  expand secret info length :=
    if length ≤ 255 * 32 then some (expanded secret info length) else none
  encrypt usedKey usedNonce text :=
    if usedKey = key ∧ usedNonce = nonce ∧ text = plaintext ++ [2] then some ciphertext
    else some (text ++ tag)
  decrypt usedKey usedNonce text :=
    if usedKey = key ∧ usedNonce = nonce ∧ text = ciphertext then some (plaintext ++ [2])
    else if text.drop (text.length - 16) = tag then some (text.take (text.length - 16))
    else none

theorem crates_correct : crates.Correct where
  pointLength isSender := by
    cases isSender
    · decide +kernel
    · decide +kernel
  pointParses isSender := by
    cases isSender
    · decide +kernel
    · decide +kernel
  agreement one other := by
    cases one
    all_goals cases other
    all_goals rfl
  expands secret info length fits := by
    refine ⟨expanded secret info length, if_pos fits, ?_⟩
    unfold expanded
    split
    · rename_i used
      rw [used.2.2]
      decide
    · split
      · rename_i used
        rw [used.2.2]
        decide
      · split
        · rename_i used
          rw [used.2.2]
          decide
        · exact List.length_replicate
  encrypts usedKey usedNonce text _ _ _ := by
    by_cases known : usedKey = key ∧ usedNonce = nonce ∧ text = plaintext ++ [2]
    · refine ⟨ciphertext, if_pos known, ?_⟩
      rw [known.2.2]
      decide +kernel
    · refine ⟨text ++ tag, if_neg known, ?_⟩
      rw [List.length_append]
      rfl
  decrypts usedKey usedNonce text other encrypted := by
    simp only [crates] at encrypted
    by_cases known : usedKey = key ∧ usedNonce = nonce ∧ text = plaintext ++ [2]
    · rw [if_pos known] at encrypted
      obtain rfl := Option.some.inj encrypted
      obtain ⟨rfl, rfl, rfl⟩ := known
      simp only [crates, and_self, if_true]
    · rw [if_neg known] at encrypted
      obtain rfl := Option.some.inj encrypted
      -- the known ciphertext does not end in zeros
      have apart : text ++ tag ≠ ciphertext := by
        intro same
        have ends : (text ++ tag).getLast? = some 0 := by
          rw [List.getLast?_append]
          rfl
        rw [same] at ends
        exact absurd ends (by decide +kernel)
      have size : (text ++ tag).length - 16 = text.length := by
        rw [List.length_append]
        rfl
      simp only [crates, if_neg (fun matched : _ ∧ _ ∧ _ => apart matched.2.2), size,
        List.drop_left, List.take_left, if_true]

def subscription : Subscription :=
  ⟨⟨"https", "", none, some (.domain "push.example"), some 443, "/"⟩,
    ⟨receiverKey, by decide +kernel⟩, ⟨auth, by decide⟩, .aes128Gcm⟩

/-- The body is the known one, and its receiver reads the message. -/
theorem message_decodable :
    ∃ message, encrypt crates (some true) (some salt) subscription plaintext = .ok message ∧
      message.body = body ∧
      receive crates false auth message.contentEncoding message.extraHeaders message.body =
        some ⟨4096, [plaintext]⟩ := by
  have valid : Subscription.new crates subscription.endpoint receiverKey auth .aes128Gcm =
      .ok subscription := by
    decide +kernel
  have owned : crates.toSec1Point (crates.publicKey false) = receiverKey := by
    decide +kernel
  have small : ¬ 4096 < bodySize .aes128Gcm plaintext.length := by
    decide +kernel
  rcases encrypt_decodable crates_correct valid owned true salt plaintext with
    ⟨_, large⟩ | ⟨message, encrypted, _, _, received⟩
  · exact absurd large small
  · have known : encrypt crates (some true) (some salt) subscription plaintext =
        .ok ⟨"aes128gcm", body, []⟩ := by
      decide +kernel
    have same : message = ⟨"aes128gcm", body, []⟩ :=
      Except.ok.inj (encrypted.symm.trans known)
    refine ⟨message, encrypted, ?_, received _ (.inl rfl)⟩
    rw [same]

end Known

end Roosty.WebPush
