import Roosty.Library.StructuredField
import Roosty.Library.Text

/-!
# HTTP messages

Requests as the signature code reads them. Each type carries what the HTTP and
URL libraries guarantee of its values.
-/

set_option autoImplicit false

namespace Roosty.Federation

open Library

structure HeaderName where
  text : List Char
  valid : (text.all fun character =>
    StructuredField.isTokenChar character && !StructuredField.isUpper character) = true
  nonempty : text ≠ []
deriving DecidableEq

/-- Names that `HeaderName::from_bytes` accepts, in any letter case. -/
def isHeaderName (text : List Char) : Bool :=
  !text.isEmpty && decide (text.length ≤ 65535) && text.all StructuredField.isTokenChar

def isFieldByte (byte : UInt8) : Bool := (32 ≤ byte && byte != 127) || byte == 9

structure HeaderValue where
  bytes : List UInt8
  valid : bytes.all isFieldByte = true
deriving DecidableEq

namespace HeaderValue

def fromStr (text : List Char) : Option HeaderValue :=
  let bytes := text.flatMap String.utf8EncodeChar
  if valid : bytes.all isFieldByte = true then some ⟨bytes, valid⟩ else none

def isVisibleAscii (byte : UInt8) : Bool := (32 ≤ byte && byte < 127) || byte == 9

/-- The text of a value whose bytes are all visible ASCII or tabs. -/
def toStr (value : HeaderValue) : Option (List Char) :=
  if value.bytes.all isVisibleAscii then
    some (value.bytes.map fun byte => Char.ofNat byte.toNat)
  else none

end HeaderValue

structure HeaderMap where
  entries : List (HeaderName × HeaderValue)
deriving DecidableEq

namespace HeaderMap

def getAll (headers : HeaderMap) (name : List Char) : List HeaderValue :=
  (headers.entries.filter fun entry => entry.1.text == Text.toAsciiLowercase name).map Prod.snd

def get (headers : HeaderMap) (name : List Char) : Option HeaderValue :=
  (headers.getAll name).head?

def containsKey (headers : HeaderMap) (name : List Char) : Bool :=
  !(headers.getAll name).isEmpty

def insert (headers : HeaderMap) (name : HeaderName) (value : HeaderValue) : HeaderMap :=
  ⟨headers.entries.filter (fun entry => entry.1.text != name.text) ++ [(name, value)]⟩

end HeaderMap

structure Method where
  text : List Char
  valid : text.all StructuredField.isTokenChar = true
deriving DecidableEq

def Method.post : Method := ⟨"POST".toList, by decide⟩

def isUriChar (character : Char) : Bool :=
  decide (0x20 < character.toNat) && character.toNat != 0x7f

structure PathAndQuery where
  path : List Char
  query : Option (List Char)
  valid : (path ++ query.getD []).all isUriChar = true
deriving DecidableEq

def PathAndQuery.text (target : PathAndQuery) : List Char :=
  target.path ++ match target.query with
    | some query => '?' :: query
    | none => []

def PathAndQuery.asStr (target : PathAndQuery) : List Char :=
  if target.text.isEmpty then ['/'] else target.text

structure RequestUri where
  pathAndQuery : Option PathAndQuery
deriving DecidableEq

namespace RequestUri

def path (uri : RequestUri) : List Char :=
  match uri.pathAndQuery with
  | some target => if target.path.isEmpty then ['/'] else target.path
  | none => []

def query (uri : RequestUri) : Option (List Char) :=
  uri.pathAndQuery.bind PathAndQuery.query

end RequestUri

structure Parts where
  method : Method
  uri : RequestUri
  headers : HeaderMap

/-!
## URLs
-/

def isUrlChar : Char → Bool := StructuredField.inRange '!' '~'

structure UrlPath where
  text : List Char
  absolute : text.head? = some '/'
  valid : (text.all fun character =>
    isUrlChar character && character != '?' && character != '#') = true
deriving DecidableEq

structure UrlQuery where
  text : List Char
  valid : (text.all fun character => isUrlChar character && character != '#') = true
deriving DecidableEq

/-- A scheme, user name, password or host: no delimiter of a later part. -/
structure UrlPart where
  text : List Char
  valid : (text.all fun character => isUrlChar character && character != '/') = true
deriving DecidableEq

structure UrlFragment where
  text : List Char
  valid : text.all isUrlChar = true
deriving DecidableEq

/-- A parsed URL of a scheme that has a host and an absolute path. -/
structure Url where
  scheme : UrlPart
  username : UrlPart
  password : Option UrlPart
  host : UrlPart
  port : Option Nat
  path : UrlPath
  query : Option UrlQuery
  fragment : Option UrlFragment
deriving DecidableEq

namespace Url

def userinfo (url : Url) : List Char :=
  if url.username.text.isEmpty && url.password.isNone then []
  else url.username.text ++ (match url.password with
    | some password => ':' :: password.text
    | none => []) ++ ['@']

def hostAndPort (url : Url) : List Char :=
  url.host.text ++ match url.port with
    | some port => ':' :: Nat.toDigits 10 port
    | none => []

def hostStr (url : Url) : Option (List Char) := some url.host.text

def queryText (url : Url) : List Char :=
  match url.query with
  | some query => '?' :: query.text
  | none => []

def fragmentText (url : Url) : List Char :=
  match url.fragment with
  | some fragment => '#' :: fragment.text
  | none => []

def asStr (url : Url) : List Char :=
  url.scheme.text ++ "://".toList ++ url.userinfo ++ url.hostAndPort ++ url.path.text ++
    url.queryText ++ url.fragmentText

end Url

private theorem isUrlChar_ne_newline {character : Char} (url : isUrlChar character = true) :
    character ≠ '\n' := by
  intro same
  rw [same] at url
  exact absurd url (by decide)

private theorem all_and_left {left right : Char → Bool} {text : List Char}
    (valid : (text.all fun character => left character && right character) = true) :
    ∀ character ∈ text, left character = true := by
  intro character member
  have both := List.all_eq_true.mp valid character member
  simp only [Bool.and_eq_true] at both
  exact both.1

private theorem UrlPart.no_newline (part : UrlPart) : '\n' ∉ part.text := fun member =>
  isUrlChar_ne_newline (all_and_left part.valid _ member) rfl

private theorem UrlPath.no_newline (path : UrlPath) : '\n' ∉ path.text := by
  intro member
  have valid := List.all_eq_true.mp path.valid _ member
  exact absurd valid (by decide)

theorem toDigits_no_newline (value : Nat) : '\n' ∉ Nat.toDigits 10 value := by
  intro member
  have digit := Nat.isDigit_of_mem_toDigits (by decide) (by decide) member
  exact absurd digit (by decide)

theorem Url.asStr_no_newline (url : Url) : '\n' ∉ url.asStr := by
  simp only [Url.asStr, List.mem_append, not_or]
  refine ⟨⟨⟨⟨⟨⟨url.scheme.no_newline, by decide⟩, ?_⟩, ?_⟩, url.path.no_newline⟩, ?_⟩, ?_⟩
  · unfold Url.userinfo
    split
    · exact List.not_mem_nil
    · cases url.password with
      | none => simp [url.username.no_newline]
      | some password => simp [url.username.no_newline, password.no_newline]
  · unfold Url.hostAndPort
    cases url.port with
    | none => simp [url.host.no_newline]
    | some port => simp [url.host.no_newline, toDigits_no_newline]
  · unfold Url.queryText
    cases url.query with
    | none => exact List.not_mem_nil
    | some query =>
        intro member
        rcases List.mem_cons.mp member with mark | inside
        · cases mark
        · exact isUrlChar_ne_newline (all_and_left query.valid _ inside) rfl
  · unfold Url.fragmentText
    cases url.fragment with
    | none => exact List.not_mem_nil
    | some fragment =>
        intro member
        rcases List.mem_cons.mp member with mark | inside
        · cases mark
        · exact isUrlChar_ne_newline (List.all_eq_true.mp fragment.valid _ inside) rfl

end Roosty.Federation
