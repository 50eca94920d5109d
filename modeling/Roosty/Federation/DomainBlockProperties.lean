import Roosty.Federation.DomainBlock

/-!
# Which domains a rule covers

The suffixes of a domain, the `LIKE` pattern of a rule and the stripped suffix are three
ways to say that a domain is a rule's domain or below it. They agree up to the wildcard
`_`, which host names may contain: a suspended-domain rule with it also purges actors
whose domain only resembles what is below the rule.
-/

set_option autoImplicit false

namespace Roosty.Federation.DomainBlock

open Library Network Discovery TextMatch

def Covers (rule domain : String) : Prop := Below '.' rule.toList domain.toList

/-- What stands behind a dot of the domain is the domain of the rule, up to the places at
which the rule has an underscore. -/
def LooksCovered (rule domain : String) : Prop := Resembles '.' rule.toList domain.toList

/-- The parser of host names refuses percent signs and backslashes. -/
def ForbidsEscapes (parseHost : String → Option Host) : Prop :=
  ∀ text name, parseHost text = some (.domain name) → Plain name.toList

structure RulesValid (rules : List FederationDomainBlock) : Prop where
  unique : Table.UniqueOn (fun rule => some rule.id) rules
  dotted : ∀ rule ∈ rules, '.' ∈ rule.domain.toList
  plain : ∀ rule ∈ rules, Plain rule.domain.toList

structure MatchersAgree (parseHost : String → Option Host) (rules : List FederationDomainBlock)
    (actors : List RemoteActor) (actor : RemoteActor) : Prop where
  selected : ∃ chosen, selectedRules parseHost rules actor.domain = .ok chosen ∧
    ∀ rule ∈ rules, rule ∈ chosen ↔ Covers rule.domain actor.domain
  purged : ∀ rule ∈ rules, rule.severity = .suspend →
    (actor ∈ reconcileFederationDomainBlock rules actors rule.id ↔
      Covers rule.domain actor.domain)
  reconciled : ∀ rule ∈ rules,
    (actor ∈ reconcileSuspendedRemoteDomains actors [rule.domain] ↔
      Covers rule.domain actor.domain)
  effective : ∀ rule ∈ rules, actor ∈ reconcileFederationDomainBlock rules actors rule.id →
    ∃ policy, federationDomainPolicy parseHost rules actor.domain = .ok policy ∧
      policy.isSuspended = true

section

variable {parseHost : String → Option Host} {rules : List FederationDomainBlock}

/-!
## The rules that are stored
-/

private theorem toLower_free {letter kept : Char} (lowered : letter.toLower = kept)
    (outside : kept.toNat < 97) : letter = kept := by
  delta Char.toLower at lowered
  split at lowered
  next upper =>
    have value : letter.val + ('a'.val - 'A'.val) = kept.val := congrArg Char.val lowered
    have number := congrArg UInt32.toNat value
    rw [UInt32.toNat_add] at number
    have bounds := upper
    simp only [ge_iff_le, UInt32.le_iff_toNat_le] at bounds
    simp only [Char.reduceVal, UInt32.reduceToNat, UInt32.reduceSub] at bounds number
    change kept.val.toNat < 97 at outside
    omega
  next => exact lowered

private theorem mem_toLowercase {text : String} {kept : Char} (outside : kept.toNat < 97)
    (member : kept ∈ (toLowercase text).toList) : kept ∈ text.toList := by
  unfold toLowercase Text.toAsciiLowercase at member
  rw [String.toList_ofList, List.mem_map] at member
  obtain ⟨letter, inside, lowered⟩ := member
  exact toLower_free lowered outside ▸ inside

theorem normalizeFederationDomain_ok {domain normal : String} (forbids : ForbidsEscapes parseHost)
    (success : normalizeFederationDomain parseHost domain = .ok normal) :
    '.' ∈ normal.toList ∧ Plain normal.toList := by
  unfold normalizeFederationDomain at success
  dsimp only at success
  split at success
  next name parsed =>
    split at success
    next checked =>
      cases success
      simp only [Bool.and_eq_true, List.contains_iff_mem] at checked
      have plain := forbids _ _ parsed
      refine ⟨?_, fun member => plain.1 (mem_toLowercase (by decide) member),
        fun member => plain.2 (mem_toLowercase (by decide) member)⟩
      unfold toLowercase Text.toAsciiLowercase
      rw [String.toList_ofList, List.mem_map]
      exact ⟨'.', checked.1, rfl⟩
    next => cases success
  next => cases success

private theorem createFederationDomainBlock_ok {id : Nat} {now : Int}
    {input : NewFederationDomainBlock} {created : List FederationDomainBlock}
    (success : createFederationDomainBlock parseHost rules id now input = .ok created) :
    ∃ rule, created = rules ++ [rule] ∧ rule.id = id ∧ (∀ other ∈ rules, other.id ≠ id) ∧
      normalizeFederationDomain parseHost input.domain = .ok rule.domain := by
  unfold createFederationDomainBlock at success
  obtain ⟨domain, normal, success⟩ := bind_ok success
  obtain ⟨_, _, success⟩ := bind_ok success
  obtain ⟨_, fresh, success⟩ := bind_ok success
  obtain ⟨_, _, success⟩ := bind_ok success
  cases success
  refine ⟨_, rfl, rfl, ?_, normal⟩
  have checked := ensure_ok fresh
  simpa using checked

private theorem RulesValid.created {id : Nat} {now : Int} {input : NewFederationDomainBlock}
    {created : List FederationDomainBlock} (valid : RulesValid rules)
    (forbids : ForbidsEscapes parseHost)
    (success : createFederationDomainBlock parseHost rules id now input = .ok created) :
    RulesValid created := by
  obtain ⟨rule, rfl, sameId, fresh, normal⟩ := createFederationDomainBlock_ok success
  obtain ⟨dotted, plain⟩ := normalizeFederationDomain_ok forbids normal
  refine ⟨valid.unique.insert ?_, ?_, ?_⟩
  · intro value same other member
    cases same
    rw [sameId]
    exact fun taken => fresh other member (Option.some.inj taken)
  · intro other member
    rcases List.mem_append.mp member with old | new
    · exact valid.dotted other old
    · rw [List.mem_singleton.mp new]
      exact dotted
  · intro other member
    rcases List.mem_append.mp member with old | new
    · exact valid.plain other old
    · rw [List.mem_singleton.mp new]
      exact plain

private theorem RulesValid.of_update {selected : FederationDomainBlock → Bool}
    {change : FederationDomainBlock → FederationDomainBlock} (valid : RulesValid rules)
    (keepsId : ∀ rule, (change rule).id = rule.id)
    (keepsDomain : ∀ rule, (change rule).domain = rule.domain) :
    RulesValid (Table.updateWhere selected change rules) := by
  have kept : ∀ rule ∈ Table.updateWhere selected change rules,
      ∃ before ∈ rules, before.domain = rule.domain := by
    intro rule member
    rcases Table.mem_updateWhere.mp member with ⟨old, _⟩ | ⟨before, old, _, rfl⟩
    · exact ⟨rule, old, rfl⟩
    · exact ⟨before, old, (keepsDomain before).symm⟩
  refine ⟨valid.unique.updateWhere ?_, ?_, ?_⟩
  · intro rule _ _
    exact .inl (congrArg some (keepsId rule))
  · intro rule member
    obtain ⟨before, old, same⟩ := kept rule member
    exact same ▸ valid.dotted before old
  · intro rule member
    obtain ⟨before, old, same⟩ := kept rule member
    exact same ▸ valid.plain before old

private theorem RulesValid.updated {id : Nat} {now : Int} {update : FederationDomainBlockUpdate}
    {updated : List FederationDomainBlock} (valid : RulesValid rules)
    (success : updateFederationDomainBlock rules id now update = .ok updated) :
    RulesValid updated := by
  unfold updateFederationDomainBlock at success
  obtain ⟨_, _, success⟩ := bind_ok success
  cases success
  exact valid.of_update (fun _ => rfl) (fun _ => rfl)

private theorem RulesValid.deleted (valid : RulesValid rules) (id : Nat) :
    RulesValid (deleteFederationDomainBlock rules id) where
  unique := valid.unique.deleteWhere _
  dotted := fun rule member => valid.dotted rule (Table.mem_deleteWhere.mp member).1
  plain := fun rule member => valid.plain rule (Table.mem_deleteWhere.mp member).1

theorem run_rulesValid (forbids : ForbidsEscapes parseHost) (calls : List RuleCall) :
    RulesValid ((ruleStore parseHost).run [] calls) := by
  refine (ruleStore parseHost).run_invariant RulesValid ?_
    ⟨Table.UniqueOn.nil _, fun _ member => absurd member List.not_mem_nil,
      fun _ member => absurd member List.not_mem_nil⟩ calls
  intro rules call valid
  cases call with
  | create id now input =>
      dsimp only [ruleStore]
      cases result : createFederationDomainBlock parseHost rules id now input with
      | ok created => exact valid.created forbids result
      | error error => exact valid
  | update id now update =>
      dsimp only [ruleStore]
      cases result : updateFederationDomainBlock rules id now update with
      | ok updated => exact valid.updated result
      | error error => exact valid
  | delete id => exact valid.deleted id

/-!
## The matchers
-/

variable {actors : List RemoteActor} {actor : RemoteActor} {rule : FederationDomainBlock}

private theorem RulesValid.selected (valid : RulesValid rules) {domain : String}
    (normal : normalizeFederationDomain parseHost domain = .ok domain) :
    ∃ chosen, selectedRules parseHost rules domain = .ok chosen ∧
      ∀ rule, rule ∈ chosen ↔ rule ∈ rules ∧ Covers rule.domain domain := by
  unfold selectedRules federationDomainSuffixes
  rw [normal]
  refine ⟨_, rfl, ?_⟩
  intro rule
  rw [List.mem_filter, List.contains_iff_mem, List.mem_map]
  refine and_congr_right fun member => ?_
  unfold Covers
  constructor
  · rintro ⟨suffix, listed, same⟩
    rw [← same, String.toList_ofList]
    exact (mem_labelSuffixes.mp listed).2
  · intro below
    exact ⟨rule.domain.toList, mem_labelSuffixes.mpr ⟨valid.dotted rule member, below⟩,
      String.ofList_toList⟩

private theorem RulesValid.purges_iff (valid : RulesValid rules) (member : rule ∈ rules)
    (listed : actor ∈ actors) :
    actor ∈ reconcileFederationDomainBlock rules actors rule.id ↔
      rule.severity = .suspend ∧
        (actor.domain = rule.domain ∨ LooksCovered rule.domain actor.domain) := by
  have found : (rules.find? fun other => other.id == rule.id) = some rule :=
    valid.unique.find?_eq_some member
  have plain : Plain ('.' :: rule.domain.toList) := by
    obtain ⟨percent, escape⟩ := valid.plain rule member
    exact ⟨by simp [percent], by simp [escape]⟩
  unfold reconcileFederationDomainBlock
  rw [found]
  dsimp only
  by_cases suspended : rule.severity = .suspend
  · rw [if_neg (not_not.mpr suspended), List.mem_filter, equalOrLike,
      equal_or_like_iff plain (by decide), String.toList_inj]
    exact ⟨fun matched => ⟨suspended, matched.2⟩, fun matched => ⟨listed, matched.2⟩⟩
  · rw [if_pos suspended]
    exact ⟨fun impossible => absurd impossible List.not_mem_nil,
      fun matched => absurd matched.1 suspended⟩

private theorem reconciles_iff (listed : actor ∈ actors) (blocked : String) :
    actor ∈ reconcileSuspendedRemoteDomains actors [blocked] ↔ Covers blocked actor.domain := by
  unfold reconcileSuspendedRemoteDomains Covers
  rw [List.mem_filter, List.any_cons, List.any_nil, Bool.or_false, equal_or_stripped_iff]
  exact ⟨fun matched => matched.2, fun below => ⟨listed, below⟩⟩

private theorem max_suspend {left right : DomainBlockSeverity} :
    left.max right = .suspend ↔ left = .suspend ∨ right = .suspend := by
  cases left <;> cases right <;> decide

private theorem policy_suspended {chosen : List FederationDomainBlock} {domain : String}
    (selected : selectedRules parseHost rules domain = .ok chosen) :
    ∃ policy, federationDomainPolicy parseHost rules domain = .ok policy ∧
      (policy.isSuspended = true ↔ ∃ rule ∈ chosen, rule.severity = .suspend) := by
  unfold federationDomainPolicy
  rw [selected]
  refine ⟨_, rfl, ?_⟩
  have folded : ∀ start : FederationDomainPolicy, (chosen.foldl (fun policy rule =>
      ({ severity := policy.severity.max rule.severity
         rejectMedia := policy.rejectMedia || rule.rejectMedia
         rejectReports := policy.rejectReports || rule.rejectReports } : FederationDomainPolicy))
        start).severity = .suspend ↔
          start.severity = .suspend ∨ ∃ rule ∈ chosen, rule.severity = .suspend := by
    clear selected
    induction chosen with
    | nil => simp
    | cons head tail ih =>
        intro start
        rw [List.foldl_cons, ih, max_suspend, or_assoc, List.exists_mem_cons_iff]
  unfold FederationDomainPolicy.isSuspended
  rw [beq_iff_eq, folded]
  simp

private theorem Covers.looks {domain : String} (covers : Covers rule.domain domain) :
    domain = rule.domain ∨ LooksCovered rule.domain domain := by
  rcases covers.resembles with same | resembles
  · exact .inl (String.toList_inj.mp same)
  · exact .inr resembles

/-- The matchers agree exactly when no domain looks covered by a suspended-domain rule
without being covered. -/
theorem domain_matchers_agree_iff (forbids : ForbidsEscapes parseHost) (calls : List RuleCall)
    (listed : actor ∈ actors)
    (normal : normalizeFederationDomain parseHost actor.domain = .ok actor.domain) :
    MatchersAgree parseHost ((ruleStore parseHost).run [] calls) actors actor ↔
      ∀ rule ∈ (ruleStore parseHost).run [] calls, rule.severity = .suspend →
        LooksCovered rule.domain actor.domain → Covers rule.domain actor.domain := by
  have valid := run_rulesValid forbids calls
  constructor
  · intro agree rule member suspended looks
    exact (agree.purged rule member suspended).mp
      ((valid.purges_iff member listed).mpr ⟨suspended, .inr looks⟩)
  · intro literal
    obtain ⟨chosen, selected, chosenRules⟩ := valid.selected normal
    have purges : ∀ rule ∈ (ruleStore parseHost).run [] calls, rule.severity = .suspend →
        (actor ∈ reconcileFederationDomainBlock ((ruleStore parseHost).run [] calls) actors rule.id ↔
          Covers rule.domain actor.domain) := by
      intro rule member suspended
      rw [valid.purges_iff member listed]
      constructor
      · rintro ⟨_, same | looks⟩
        · exact .inl (congrArg String.toList same)
        · exact literal rule member suspended looks
      · exact fun covers => ⟨suspended, covers.looks⟩
    refine ⟨⟨chosen, selected, ?_⟩, purges, fun rule _ => reconciles_iff listed rule.domain, ?_⟩
    · intro rule member
      rw [chosenRules rule]
      exact and_iff_right member
    · intro rule member purged
      have suspended := ((valid.purges_iff member listed).mp purged).1
      obtain ⟨policy, resolved, isSuspended⟩ := policy_suspended selected
      refine ⟨policy, resolved, isSuspended.mpr ⟨rule, ?_, suspended⟩⟩
      exact (chosenRules rule).mpr ⟨member, (purges rule member suspended).mp purged⟩

end

namespace Sample

def parseHost (text : String) : Option Host :=
  if text.toList.all fun letter => letter.isLower || letter == '.' || letter == '_'
  then some (.domain text) else none

def calls : List RuleCall :=
  [.create 1 0 ⟨"my_site.example", .suspend, false, false, none, none, false⟩]

def rule : FederationDomainBlock :=
  ⟨1, "my_site.example", .suspend, false, false, none, none, false, 0, 0⟩

def actor (domain : String) : RemoteActor :=
  { id := ⟨1⟩, activitypubId := "https://" ++ domain ++ "/actor", username := "alice", domain,
    invalidHandle := false, actorType := .person, inboxUrl := "https://" ++ domain ++ "/inbox",
    sharedInboxUrl := none, followersUrl := none, featuredUrl := none, featuredTagsUrl := none,
    publicKeyId := "https://" ++ domain ++ "/actor#key", publicKeyPem := "pem", expiresAt := 0,
    profileCreatedAt := none }

theorem forbidsEscapes : ForbidsEscapes parseHost := by
  intro text name parsed
  unfold parseHost at parsed
  split at parsed
  next letters =>
    cases parsed
    rw [List.all_eq_true] at letters
    exact ⟨fun member => absurd (letters _ member) (by decide),
      fun member => absurd (letters _ member) (by decide)⟩
  next => cases parsed

theorem stored : (ruleStore parseHost).run [] calls = [rule] := by decide +kernel

end Sample

open Sample in
theorem domain_matchers_agree_below :
    MatchersAgree parseHost ((ruleStore parseHost).run [] calls)
      [actor "social.my_site.example"] (actor "social.my_site.example") := by
  refine (domain_matchers_agree_iff forbidsEscapes calls List.mem_cons_self
    (by decide +kernel)).mpr ?_
  intro found member _ _
  rw [stored, List.mem_singleton] at member
  subst member
  exact .inr ⟨"social".toList, rfl⟩

open Sample in
/-- A rule with an underscore purges an actor of another domain, whose policy is not
suspended. -/
theorem domain_matchers_disagree :
    ForbidsEscapes parseHost ∧
      normalizeFederationDomain parseHost "social.mypsite.example" =
        .ok "social.mypsite.example" ∧
      reconcileFederationDomainBlock ((ruleStore parseHost).run [] calls)
        [actor "social.mypsite.example"] 1 = [actor "social.mypsite.example"] ∧
      federationDomainPolicy parseHost ((ruleStore parseHost).run [] calls)
        "social.mypsite.example" = .ok ⟨.noop, false, false⟩ ∧
      ¬MatchersAgree parseHost ((ruleStore parseHost).run [] calls)
        [actor "social.mypsite.example"] (actor "social.mypsite.example") := by
  have purged : reconcileFederationDomainBlock [rule] [actor "social.mypsite.example"] 1 =
      [actor "social.mypsite.example"] := by decide +kernel
  have unsuspended : federationDomainPolicy parseHost [rule] "social.mypsite.example" =
      .ok ⟨.noop, false, false⟩ := by decide +kernel
  rw [stored]
  refine ⟨forbidsEscapes, by decide +kernel, purged, unsuspended, ?_⟩
  intro agree
  have reached : actor "social.mypsite.example" ∈
      reconcileFederationDomainBlock [rule] [actor "social.mypsite.example"] rule.id := by
    change _ ∈ reconcileFederationDomainBlock [rule] [actor "social.mypsite.example"] 1
    rw [purged]
    exact List.mem_cons_self
  obtain ⟨policy, resolved, suspended⟩ := agree.effective rule List.mem_cons_self reached
  cases unsuspended.symm.trans resolved
  cases suspended

end Roosty.Federation.DomainBlock
