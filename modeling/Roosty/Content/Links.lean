import Mathlib.Data.List.Sort
import Roosty.Core
import Roosty.Library.Offsets

/-!
# Links in status text

Mentions, hashtags and URLs of a plain-text status, with their byte offsets, and what is
extracted from them. The scanners share one loop: a marker after an admissible character
starts a candidate, which consumes the text that it recognises.
-/

set_option autoImplicit false

namespace Roosty.Content

open Library.Offsets

/-- Character tables, the link finder and URLs, which other crates provide. -/
structure TextContext where
  /-- `char::is_alphanumeric`. -/
  isAlphanumeric : Char → Bool
  /-- `str::to_lowercase`. -/
  toLowercase : List Char → List Char
  /-- The offsets of the links that `LinkFinder` reports. -/
  links : List Char → List (Nat × Nat)
  /-- Whether `Url::parse` succeeds with the scheme `http` or `https`. -/
  isHttpUrl : List Char → Bool
  publicBaseUrl : List Char
  /-- `public_base_url.join(path)`. -/
  joinBaseUrl : List Char → Option (List Char)

structure MentionMatch where
  start : Nat
  stop : Nat
  username : List Char
deriving DecidableEq

structure RemoteMentionMatch where
  start : Nat
  stop : Nat
  username : List Char
  domain : List Char
deriving DecidableEq

structure HashtagMatch where
  start : Nat
  stop : Nat
  name : List Char
deriving DecidableEq

structure UrlMatch where
  start : Nat
  stop : Nat
  url : List Char
deriving DecidableEq

/-- `username@domain`. -/
def RemoteMentionMatch.handle (mention : RemoteMentionMatch) : List Char :=
  mention.username ++ '@' :: mention.domain

/-!
## Scanners
-/

/-- An occurrence of a marker, the text consumed with it, and what that is. -/
structure Candidate (Found : Type) where
  start : Nat
  text : List Char
  found : Option Found

/-- The loop of the scanners. Characters that a candidate consumed are skipped; the last
of them is then the previous one. -/
def scan {Found : Type} (marker : Char) (validPrefix : Option Char → Bool)
    (recognise : Nat → List Char → List Char × Option Found) :
    Nat → Option Char → Nat → List Char → List (Candidate Found)
  | _, _, _, [] => []
  | skip + 1, _, index, character :: rest =>
      scan marker validPrefix recognise skip (some character) (index + character.utf8Size) rest
  | 0, previous, index, character :: rest =>
      if character != marker || !validPrefix previous then
        scan marker validPrefix recognise 0 (some character) (index + character.utf8Size) rest
      else
        let (consumed, found) := recognise index rest
        ⟨index, character :: consumed, found⟩ ::
          scan marker validPrefix recognise consumed.length (some character)
            (index + character.utf8Size) rest

def validMentionPrefix (previous : Option Char) : Bool :=
  previous.all fun character =>
    !(character.isAlphanum || character == '_' || character == '@')

def validMentionNameCharacter (character : Char) : Bool :=
  character.isAlphanum || character == '_'

def validDomainCharacter (character : Char) : Bool :=
  character.isAlphanum || character == '.' || character == '-'

def recogniseMention (start : Nat) (rest : List Char) : List Char × Option MentionMatch :=
  let username := rest.takeWhile validMentionNameCharacter
  let next := (rest.dropWhile validMentionNameCharacter).head?
  let stop := start + '@'.utf8Size + byteLength username
  (username,
    if 2 ≤ byteLength username && byteLength username ≤ 30 && next != some '@' then
      some ⟨start, stop, username⟩
    else none)

def mentionCandidates (content : List Char) : List (Candidate MentionMatch) :=
  scan '@' validMentionPrefix recogniseMention 0 none 0 content

/-- Locate syntactic local `@username` mentions in a plain-text status. -/
def localMentionMatches (content : List Char) : List MentionMatch :=
  (mentionCandidates content).filterMap Candidate.found

def recogniseRemoteMention (start : Nat) (rest : List Char) :
    List Char × Option RemoteMentionMatch :=
  let username := rest.takeWhile validMentionNameCharacter
  match rest.dropWhile validMentionNameCharacter with
  | '@' :: after =>
      let domain := after.takeWhile validDomainCharacter
      let stop := start + '@'.utf8Size + byteLength username + 1 + byteLength domain
      (username ++ '@' :: domain,
        if 2 ≤ byteLength username && byteLength username ≤ 30 && domain.contains '.' &&
            domain.head? != some '.' && domain.getLast? != some '.' then
          some ⟨start, stop, username, domain⟩
        else none)
  | _ => (username, none)

def remoteMentionCandidates (content : List Char) : List (Candidate RemoteMentionMatch) :=
  scan '@' validMentionPrefix recogniseRemoteMention 0 none 0 content

/-- Locate syntactic remote `@username@domain` mentions in a plain-text status. -/
def remoteMentionMatches (content : List Char) : List RemoteMentionMatch :=
  (remoteMentionCandidates content).filterMap Candidate.found

variable (context : TextContext)

def validHashtagPrefix (previous : Option Char) : Bool :=
  previous.all fun character => !(context.isAlphanumeric character || character == '_')

def validHashtagCharacter (character : Char) : Bool :=
  context.isAlphanumeric character || character == '_'

def recogniseHashtag (start : Nat) (rest : List Char) : List Char × Option HashtagMatch :=
  let name := rest.takeWhile (validHashtagCharacter context)
  let stop := start + '#'.utf8Size + byteLength name
  (name,
    if name.any context.isAlphanumeric then some ⟨start, stop, context.toLowercase name⟩ else none)

def hashtagCandidates (content : List Char) : List (Candidate HashtagMatch) :=
  scan '#' (validHashtagPrefix context) (recogniseHashtag context) 0 none 0 content

/-- Locate syntactic `#tag` references in plain-text status content. -/
def localHashtagMatches (content : List Char) : List HashtagMatch :=
  (hashtagCandidates context content).filterMap Candidate.found

def urlMatches (content : List Char) : List UrlMatch :=
  (context.links content).filterMap fun (start, stop) =>
    let text := (slice content start stop).getD []
    if context.isHttpUrl text then some ⟨start, stop, text⟩ else none

/-!
## Extraction
-/

def overlapsUrl (start stop : Nat) (urls : List UrlMatch) : Bool :=
  urls.any fun url => url.start < stop && start < url.stop

def mentionUsernames (content : List Char) : List (List Char) :=
  let urls := urlMatches context content
  ((localMentionMatches content).filter fun mention =>
    !overlapsUrl mention.start mention.stop urls).map MentionMatch.username

def remoteMentionHandles (content : List Char) : List (List Char) :=
  let urls := urlMatches context content
  (((remoteMentionMatches content).filter fun mention =>
    !overlapsUrl mention.start mention.stop urls).map RemoteMentionMatch.handle).eraseDups

def hashtagNames (content : List Char) : List (List Char) :=
  let urls := urlMatches context content
  (((localHashtagMatches context content).filter fun hashtag =>
    !overlapsUrl hashtag.start hashtag.stop urls).map HashtagMatch.name).eraseDups

/-!
## Resolution
-/

structure LocalAccount where
  username : List Char
deriving DecidableEq

structure RemoteActor where
  id : AccountId
  username : List Char
  domain : List Char
  activitypubId : List Char
deriving DecidableEq

def RemoteActor.handle (actor : RemoteActor) : List Char :=
  actor.username ++ '@' :: actor.domain

structure TagResponse where
  name : List Char
  url : List Char
deriving DecidableEq

def publicUrl (path : List Char) : List Char :=
  (context.joinBaseUrl (path.dropWhile (· == '/'))).getD (context.publicBaseUrl ++ '/' :: path)

def findLocalAccountByUsername (accounts : List LocalAccount) (username : List Char) :
    Option LocalAccount :=
  accounts.find? fun account => account.username == username

/-- Resolve local `@username` references present in status text. -/
def localTextMentions (accounts : List LocalAccount) (content : List Char) : List LocalAccount :=
  (mentionUsernames context content).eraseDups.filterMap (findLocalAccountByUsername accounts)

/-- Resolve syntactically valid remote handles, each actor once; `resolve` is
`resolve_remote_actor`, whose failures are left out. -/
def resolveRemoteMentions (resolve : List Char → Option RemoteActor) (content : List Char) :
    List RemoteActor :=
  (remoteMentionHandles context content).foldl (fun actors handle =>
    match resolve handle with
    | some actor =>
        if actors.any (fun existing => existing.id == actor.id) then actors else actors ++ [actor]
    | none => actors) []

def localStatusContentTagLinks (content : List Char) : List TagResponse :=
  (hashtagNames context content).map fun name =>
    ⟨name, publicUrl context ("tags/".toList ++ name)⟩

end Roosty.Content
