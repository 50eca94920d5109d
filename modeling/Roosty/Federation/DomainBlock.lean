import Mathlib.Data.List.Sort
import Roosty.Federation.RemoteActor
import Roosty.Library.TextMatch

/-!
# Domain moderation

Rules that a moderator creates for domains, and the places that ask which rules or which
actors a domain covers. The parser of host names is a parameter.
-/

set_option autoImplicit false

namespace Roosty.Federation.DomainBlock

open Library Network Discovery

inductive DomainBlockSeverity where
  | noop
  | silence
  | suspend
deriving DecidableEq

def DomainBlockSeverity.rank : DomainBlockSeverity → Nat
  | .noop => 0
  | .silence => 1
  | .suspend => 2

def DomainBlockSeverity.max (left right : DomainBlockSeverity) : DomainBlockSeverity :=
  if right.rank < left.rank then left else right

structure FederationDomainBlock where
  id : Nat
  domain : String
  severity : DomainBlockSeverity
  rejectMedia : Bool
  rejectReports : Bool
  privateComment : Option String
  publicComment : Option String
  obfuscate : Bool
  createdAt : Int
  updatedAt : Int
deriving DecidableEq

structure NewFederationDomainBlock where
  domain : String
  severity : DomainBlockSeverity
  rejectMedia : Bool
  rejectReports : Bool
  privateComment : Option String
  publicComment : Option String
  obfuscate : Bool

structure FederationDomainBlockUpdate where
  severity : Option DomainBlockSeverity
  rejectMedia : Option Bool
  rejectReports : Option Bool
  privateComment : Option (Option String)
  publicComment : Option (Option String)
  obfuscate : Option Bool

/-- Effective policy after combining every exact or parent-domain rule. -/
structure FederationDomainPolicy where
  severity : DomainBlockSeverity
  rejectMedia : Bool
  rejectReports : Bool
deriving DecidableEq

def FederationDomainPolicy.isSuspended (policy : FederationDomainPolicy) : Bool :=
  policy.severity == .suspend

variable (parseHost : String → Option Host)

def normalizeFederationDomain (domain : String) : Except RoostyError String :=
  let trimmed := String.ofList ((Text.trim domain).toList.rdropWhile (· == '.'))
  match parseHost trimmed with
  | some (.domain name) =>
      if name.toList.contains '.' && !name.toList.contains '*' then .ok (toLowercase name)
      else .error (.invalidInput "domain must be a public DNS name")
  | _ => .error (.invalidInput "domain must be a public DNS name")

/-!
## Rules
-/

/-- The check `federation_domain_block_domain_valid`. -/
def domainValid (domain : String) : Bool :=
  toLowercase domain == domain && domain != "" &&
    !domain.toList.any fun letter => ['/', '@', ':', '*'].contains letter || Text.isWhitespace letter

def createFederationDomainBlock (rules : List FederationDomainBlock) (id : Nat) (now : Int)
    (input : NewFederationDomainBlock) : Except RoostyError (List FederationDomainBlock) := do
  let domain ← normalizeFederationDomain parseHost input.domain
  ensure (!rules.any fun rule => rule.domain == domain) (.invalidInput "domain is already blocked")
  ensure (!rules.any fun rule => rule.id == id) (.database "federation_domain_block_pkey")
  ensure (domainValid domain) (.database "federation_domain_block_domain_valid")
  return rules ++
    [{ id, domain
       severity := input.severity
       rejectMedia := input.rejectMedia
       rejectReports := input.rejectReports
       privateComment := input.privateComment
       publicComment := input.publicComment
       obfuscate := input.obfuscate
       createdAt := now
       updatedAt := now }]

def updateFederationDomainBlock (rules : List FederationDomainBlock) (id : Nat) (now : Int)
    (update : FederationDomainBlockUpdate) : Except RoostyError (List FederationDomainBlock) := do
  ensure (rules.any fun rule => rule.id == id) (.invalidInput "domain block does not exist")
  return Table.updateWhere (fun rule => rule.id == id) (fun rule =>
    { rule with
      severity := update.severity.getD rule.severity
      rejectMedia := update.rejectMedia.getD rule.rejectMedia
      rejectReports := update.rejectReports.getD rule.rejectReports
      privateComment := update.privateComment.getD rule.privateComment
      publicComment := update.publicComment.getD rule.publicComment
      obfuscate := update.obfuscate.getD rule.obfuscate
      updatedAt := now }) rules

def deleteFederationDomainBlock (rules : List FederationDomainBlock) (id : Nat) :
    List FederationDomainBlock :=
  Table.deleteWhere (fun rule => rule.id == id) rules

inductive RuleCall where
  | create (id : Nat) (now : Int) (input : NewFederationDomainBlock)
  | update (id : Nat) (now : Int) (update : FederationDomainBlockUpdate)
  | delete (id : Nat)

/-- Rules change in transactions of one call; a failed one changes nothing. -/
def ruleStore : Machine (List FederationDomainBlock) RuleCall (Option RoostyError) where
  step rules call :=
    let commit : Except RoostyError (List FederationDomainBlock) → _
      | .ok changed => (changed, none)
      | .error error => (rules, some error)
    match call with
    | .create id now input => commit (createFederationDomainBlock parseHost rules id now input)
    | .update id now update => commit (updateFederationDomainBlock rules id now update)
    | .delete id => (deleteFederationDomainBlock rules id, none)

/-!
## Matching
-/

def federationDomainSuffixes (domain : String) : Except RoostyError (List String) := do
  let domain ← normalizeFederationDomain parseHost domain
  return (TextMatch.labelSuffixes '.' domain.toList).map String.ofList

/-- The rules of the query of `federation_domain_policy`. -/
def selectedRules (rules : List FederationDomainBlock) (domain : String) :
    Except RoostyError (List FederationDomainBlock) := do
  let suffixes ← federationDomainSuffixes parseHost domain
  return rules.filter fun rule => suffixes.contains rule.domain

def federationDomainPolicy (rules : List FederationDomainBlock) (domain : String) :
    Except RoostyError FederationDomainPolicy := do
  let selected ← selectedRules parseHost rules domain
  return selected.foldl (fun policy rule =>
    { severity := policy.severity.max rule.severity
      rejectMedia := policy.rejectMedia || rule.rejectMedia
      rejectReports := policy.rejectReports || rule.rejectReports }) ⟨.noop, false, false⟩

/-- `domain = rule` or `domain LIKE '%.' || rule`. -/
def equalOrLike (rule domain : String) : Bool :=
  domain.toList == rule.toList || TextMatch.like domain.toList ('%' :: '.' :: rule.toList)

def reconcileFederationDomainBlock (rules : List FederationDomainBlock) (actors : List RemoteActor)
    (id : Nat) : List RemoteActor :=
  match rules.find? fun rule => rule.id == id with
  | none => []
  | some rule =>
      if rule.severity ≠ .suspend then []
      else actors.filter fun actor => equalOrLike rule.domain actor.domain

def reconcileSuspendedRemoteDomains (actors : List RemoteActor) (domains : List String) :
    List RemoteActor :=
  actors.filter fun actor => domains.any fun blocked =>
    actor.domain.toList == blocked.toList ||
      (TextMatch.stripSuffix blocked.toList actor.domain.toList).any fun before =>
        before.getLast? == some '.'

end Roosty.Federation.DomainBlock
