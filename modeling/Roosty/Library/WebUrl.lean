import Roosty.Library.Text

/-!
# URL references

The URL algorithm of the web, for a reference that is read against a base URL with a
special scheme other than `file`. Credentials are read over and not kept.
-/

set_option autoImplicit false

namespace Roosty.Library.WebUrl

/-!
## Characters
-/

def isC0ControlOrSpace (character : Char) : Bool := character.toNat ≤ 0x20

def isTabOrNewline (character : Char) : Bool :=
  character == '\t' || character == '\n' || character == '\r'

def isSlash (character : Char) : Bool := character == '/' || character == '\\'

def endsPath (character : Char) : Bool := character == '?' || character == '#'

def endsAuthority (character : Char) : Bool := isSlash character || endsPath character

def isSchemeChar (character : Char) : Bool :=
  character.isAlphanum || character == '+' || character == '-' || character == '.'

def c0ControlSet (character : Char) : Bool := character.toNat ≤ 0x1f || 0x7e < character.toNat

def fragmentSet (character : Char) : Bool :=
  c0ControlSet character || character ∈ [' ', '\x22', '<', '>', '\x60']

def querySet (character : Char) : Bool :=
  c0ControlSet character || character ∈ [' ', '\x22', '#', '<', '>']

def specialQuerySet (character : Char) : Bool := querySet character || character == '\x27'

/-- The set of the current standard. Version 2.5.8 of the `url` crate leaves `^` as it is. -/
def pathSet (character : Char) : Bool :=
  querySet character || character ∈ ['?', '^', '\x60', '\x7b', '\x7d']

def percentEncodeByte (byte : UInt8) : List Char :=
  ['%', (Nat.digitChar (byte.toNat / 16)).toUpper, (Nat.digitChar (byte.toNat % 16)).toUpper]

def utf8PercentEncode (encoded : Char → Bool) (text : List Char) : List Char :=
  text.flatMap fun character =>
    if encoded character then (String.utf8EncodeChar character).flatMap percentEncodeByte
    else [character]

/-!
## URLs
-/

/-- A port is `none` where it is the default of the scheme. An opaque path is one segment. -/
structure Url (Host : Type) where
  scheme : String
  host : Option Host
  port : Option Nat
  path : List (List Char)
  query : Option (List Char)
  fragment : Option (List Char)
deriving DecidableEq

/-- The parser of the hosts of special URLs, and the parser of absolute URLs of another
scheme than the base's, which is given the scheme and the text after its colon. -/
structure Parsers (Host : Type) where
  parseHost : List Char → Option Host
  parseAbsolute : String → List Char → Option (Url Host)
  parseAbsolute_scheme : ∀ scheme rest url, parseAbsolute scheme rest = some url →
    url.scheme = scheme

/-!
## Parts of a text
-/

/-- The input with tabs and newlines removed, and blanks removed at its end. -/
def cleanedEnd (input : List Char) : List Char :=
  (input.rdropWhile isC0ControlOrSpace).filter fun character => !isTabOrNewline character

def cleaned (input : List Char) : List Char :=
  (Text.trimMatches isC0ControlOrSpace input).filter fun character => !isTabOrNewline character

/-- A scheme in front of a text, and the text after the colon. -/
def splitScheme (text : List Char) : Option (String × List Char) :=
  if text.head?.any Char.isAlpha then
    match text.dropWhile isSchemeChar with
    | ':' :: rest => some (String.ofList ((text.takeWhile isSchemeChar).map Char.toLower), rest)
    | _ => none
  else none

def pathPart (text : List Char) : List Char := text.takeWhile fun character => !endsPath character

def queryOf (text : List Char) : Option (List Char) :=
  match text.dropWhile fun character => !endsPath character with
  | '?' :: rest => some (utf8PercentEncode specialQuerySet (rest.takeWhile (· != '#')))
  | _ => none

def fragmentOf (text : List Char) : Option (List Char) :=
  match text.dropWhile (· != '#') with
  | [] => none
  | _ :: rest => some (utf8PercentEncode fragmentSet rest)

/-!
## Paths
-/

def segments (path : List Char) : List (List Char) := path.splitOnP isSlash

def isSingleDot (segment : List Char) : Bool :=
  Text.toAsciiLowercase segment ∈ [".".toList, "%2e".toList]

def isDoubleDot (segment : List Char) : Bool :=
  Text.toAsciiLowercase segment ∈
    ["..".toList, ".%2e".toList, "%2e.".toList, "%2e%2e".toList]

def closed (path : List (List Char)) : List (List Char) :=
  if path.getLast?.any fun last => isSingleDot last || isDoubleDot last then path ++ [[]] else path

def enter (stack : List (List Char)) (segment : List Char) : List (List Char) :=
  if isDoubleDot segment then stack.tail
  else if isSingleDot segment then stack
  else utf8PercentEncode pathSet segment :: stack

/-- The segments of a path under the path `above`. -/
def resolvePath (above path : List (List Char)) : List (List Char) :=
  ((closed path).foldl enter above.reverse).reverse

section

variable {Host : Type}

/-- The URL with the path under `above`, the query and the fragment of a text. -/
def Url.withPath (url : Url Host) (above : List (List Char)) (text : List Char) : Url Host :=
  { url with
    path := resolvePath above (segments (pathPart text))
    query := queryOf text
    fragment := fragmentOf text }

/-!
## Authorities
-/

/-- A host, and the port after the first colon that no brackets enclose. -/
def splitPort : Bool → List Char → List Char × Option (List Char)
  | _, [] => ([], none)
  | inBrackets, character :: rest =>
      if character = ':' && !inBrackets then ([], some rest)
      else
        let (host, port) := splitPort (character == '[' || (inBrackets && character != ']')) rest
        (character :: host, port)

def defaultPort (scheme : String) : Option Nat :=
  if scheme = "ftp" then some 21
  else if scheme = "http" || scheme = "ws" then some 80
  else if scheme = "https" || scheme = "wss" then some 443
  else none

def readPort (scheme : String) (digits : List Char) : Option (Option Nat) :=
  let value := digits.foldl (fun value digit => value * 10 + (digit.toNat - '0'.toNat)) 0
  if !digits.all Char.isDigit || 65535 < value then none
  else if digits.isEmpty || defaultPort scheme = some value then some none
  else some (some value)

/-- The host and the port in front of a text, and the text after them. -/
def readAuthority (parsers : Parsers Host) (scheme : String) (text : List Char) :
    Option (Host × Option Nat × List Char) := do
  let block := text.takeWhile fun character => !endsAuthority character
  let (host, port) := splitPort false (block.rtakeWhile (· != '@'))
  guard !host.isEmpty
  let host ← parsers.parseHost host
  let port ← (port.map (readPort scheme)).getD (some none)
  some (host, port, text.dropWhile fun character => !endsAuthority character)

/-- The host and the port of an absolute URL of the scheme `https`. -/
def httpsOrigin (parsers : Parsers Host) (input : List Char) : Option (Host × Option Nat) := do
  let (scheme, rest) ← splitScheme (cleaned input)
  guard (scheme = "https")
  let (host, port, _) ← readAuthority parsers scheme (rest.dropWhile isSlash)
  some (host, port)

def dropSlash : List Char → List Char
  | [] => []
  | first :: rest => if isSlash first then rest else first :: rest

/-!
## References
-/

/-- A reference names another scheme, or it is read against the base. -/
inductive Reference where
  | elsewhere (scheme : String) (rest : List Char)
  | under (rest : List Char)

def reference (scheme : String) (text : List Char) : Reference :=
  match splitScheme text with
  | none => .under text
  | some (named, rest) => if named = scheme then .under rest else .elsewhere named rest

def namesAuthority : List Char → Bool
  | first :: second :: _ => isSlash first && isSlash second
  | _ => false

variable (parsers : Parsers Host) (base : Url Host)

def joinAuthority (text : List Char) : Option (Url Host) := do
  let (host, port, rest) ← readAuthority parsers base.scheme (text.dropWhile isSlash)
  some ({ base with host := some host, port := port }.withPath [] (dropSlash rest))

def joinPath (text : List Char) : Url Host :=
  match text with
  | [] => { base with fragment := none }
  | first :: rest =>
      if isSlash first then base.withPath [] rest
      else if first = '?' then { base with query := queryOf text, fragment := fragmentOf text }
      else if first = '#' then { base with fragment := fragmentOf text }
      else base.withPath base.path.dropLast text

def join (input : List Char) : Option (Url Host) :=
  match reference base.scheme (cleaned input) with
  | .elsewhere scheme rest => parsers.parseAbsolute scheme rest
  | .under text =>
      if namesAuthority text then joinAuthority parsers base text
      else some (joinPath base text)

/-- The URL that is read when `input` follows the text of `base`. -/
def appended (input : List Char) : Url Host :=
  let text := cleanedEnd input
  match base.fragment, base.query with
  | some fragment, _ =>
      { base with fragment := some (fragment ++ utf8PercentEncode fragmentSet text) }
  | none, some query =>
      { base with
        query := some (query ++ utf8PercentEncode specialQuerySet (text.takeWhile (· != '#')))
        fragment := fragmentOf text }
  | none, none => base.withPath base.path.dropLast (base.path.getLast?.getD [] ++ text)

end

end Roosty.Library.WebUrl
