import Roosty.Library.Pieces
import Roosty.Library.Text

/-!
# Job errors for administrators

The last error of a job as administrators see it, in which the rest of a word from a URL on
is redacted.
-/

set_option autoImplicit false

namespace Roosty.Job

open Library Library.Text

def https : List Char := "https://".toList

def http : List Char := "http://".toList

def redactedUrl : List Char := "[redacted-url] ".toList

/-- A word and the whitespace behind it, which is lost with a URL. -/
def redactPart (part : List Char) : List Char :=
  match (splitOnceText https part).or (splitOnceText http part) with
  | some (before, _) => before ++ redactedUrl
  | none => part

def redacted (error : List Char) : List Char :=
  (splitInclusive isWhitespace error).flatMap redactPart

def sanitizeAdminJobError (error : String) : String :=
  String.ofList (((redacted error.toList).rdropWhile isWhitespace).take 500)

/-!
## Disclosure
-/

inductive Scheme where
  | https
  | http
deriving DecidableEq

def Scheme.text : Scheme → List Char
  | .https => Job.https
  | .http => Job.http

def firstScheme : List Char → Option (List Char × Scheme)
  | [] => none
  | first :: rest =>
      if https.isPrefixOf (first :: rest) then some ([], .https)
      else if http.isPrefixOf (first :: rest) then some ([], .http)
      else (firstScheme rest).map fun found => (first :: found.1, found.2)

/-- Where the first URL of a text stands after its redaction, of those that are the first
of their word and are not `https` ones. -/
def firstHttp : List (List Char) → Option Nat
  | [] => none
  | part :: parts =>
      match firstScheme part with
      | some (before, .http) => some before.length
      | some (before, .https) => (firstHttp parts).map (before.length + redactedUrl.length + ·)
      | none => (firstHttp parts).map (part.length + ·)

/-- Two words with what separates them from the next ones, which are the same up to the
first scheme in them. -/
inductive SameUpToUrl : List Char → List Char → Prop
  | same (part : List Char) : SameUpToUrl part part
  | url {before after other : List Char} {scheme : Scheme} (space : List Char)
      (first : firstScheme (before ++ scheme.text) = some (before, scheme))
      (solid : ∀ letter ∈ after ++ other, isWhitespace letter = false)
      (separated : ∀ letter ∈ space, isWhitespace letter = true) :
      SameUpToUrl (before ++ scheme.text ++ after ++ space) (before ++ scheme.text ++ other ++ space)

/-- Two texts that differ in what follows the first scheme of a word only. -/
def Alike (error other : String) : Prop :=
  List.Forall₂ SameUpToUrl (splitInclusive isWhitespace error.toList)
    (splitInclusive isWhitespace other.toList)

/-- What administrators see of an error holds no scheme, and is the same as they see of
every error that differs behind the schemes of its words only. -/
structure Undisclosed (error : String) : Prop where
  https : ¬ https <:+: (sanitizeAdminJobError error).toList
  http : ¬ http <:+: (sanitizeAdminJobError error).toList
  short : (sanitizeAdminJobError error).length ≤ 500
  independent : ∀ other, Alike error other →
    sanitizeAdminJobError other = sanitizeAdminJobError error

end Roosty.Job
