import Mathlib.Data.Finset.Basic
import Mathlib.Data.List.Perm.Basic
import Roosty.Moderation.Rules

/-!
# The order of instance rules

The requests of moderators as operations on a list, without positions: the table of rules
refines it.
-/

set_option autoImplicit false

namespace Roosty.Moderation

open Library

def TextValid (text : String) : Prop :=
  text ≠ "" ∧ text.length ≤ 300 ∧ storableText text = true

instance : DecidablePred TextValid :=
  fun _ => inferInstanceAs (Decidable (_ ∧ _ ∧ _))

structure RuleEntry where
  id : Nat
  text : String
deriving DecidableEq

def InstanceRule.entry (rule : InstanceRule) : RuleEntry :=
  ⟨rule.id, rule.text⟩

/-- A list that is ordered by hand, and the identities that were ever in it. -/
@[ext] structure Catalogue where
  entries : List RuleEntry
  known : Finset Nat

namespace Catalogue

def ids (catalogue : Catalogue) : List Nat :=
  catalogue.entries.map RuleEntry.id

def find (catalogue : Catalogue) (id : Nat) : Option RuleEntry :=
  catalogue.entries.find? fun entry => entry.id == id

def promote (id : Nat) : List RuleEntry → List RuleEntry
  | first :: second :: rest =>
      if second.id = id then second :: first :: rest else first :: promote id (second :: rest)
  | short => short

def demote (id : Nat) : List RuleEntry → List RuleEntry
  | first :: second :: rest =>
      if first.id = id then second :: first :: rest else first :: demote id (second :: rest)
  | short => short

/-- The entries that a request answers with, and what it makes of the catalogue. -/
def perform (catalogue : Catalogue) : RuleCall → Option (List RuleEntry × Catalogue)
  | .create id _ text =>
      let text := Text.trim text
      if TextValid text ∧ id ∉ catalogue.known then
        some ([⟨id, text⟩], ⟨catalogue.entries ++ [⟨id, text⟩], insert id catalogue.known⟩)
      else none
  | .update id _ text =>
      let text := Text.trim text
      if TextValid text ∧ id ∈ catalogue.ids then
        some ([⟨id, text⟩],
          { catalogue with
            entries := catalogue.entries.map fun entry =>
              if entry.id = id then ⟨id, text⟩ else entry })
      else none
  | .discard id _ =>
      (catalogue.find id).map fun entry =>
        ([entry], { catalogue with entries := catalogue.entries.filter fun entry => entry.id != id })
  | .reorder _ ids =>
      if ids.Perm catalogue.ids then
        some (ids.filterMap catalogue.find, { catalogue with entries := ids.filterMap catalogue.find })
      else none
  | .up _ id =>
      if id ∈ catalogue.ids then
        some ([], { catalogue with entries := promote id catalogue.entries })
      else none
  | .down _ id =>
      if id ∈ catalogue.ids then
        some ([], { catalogue with entries := demote id catalogue.entries })
      else none

def machine : Machine Catalogue RuleCall (Option (List RuleEntry)) where
  step catalogue call :=
    match catalogue.perform call with
    | some (answer, next) => (next, some answer)
    | none => (catalogue, none)

def empty : Catalogue := ⟨[], ∅⟩

end Catalogue

def catalogueOf (rules : List InstanceRule) : Catalogue :=
  ⟨(listInstanceRules rules).map InstanceRule.entry, (rules.map InstanceRule.id).toFinset⟩

/-- Positions of active rules are distinct and lag behind the number of rules. -/
structure RulesValid (rules : List InstanceRule) : Prop where
  ids : (rules.map InstanceRule.id).Nodup
  texts : ∀ rule ∈ rules, TextValid rule.text
  positions : ((activeRules rules).map InstanceRule.position).Nodup
  bounded : ∀ rule ∈ activeRules rules, 0 ≤ rule.position ∧ rule.position < rules.length

/-!
## Constraints
-/

theorem checkRule_eq_ok_iff {others : List InstanceRule} {rule : InstanceRule} :
    checkRule others rule = .ok () ↔ TextValid rule.text ∧ 0 ≤ rule.position ∧
      (rule.isActive = true → ∀ other ∈ activeRules others, other.position ≠ rule.position) := by
  simp only [checkRule, bind_eq_ok_iff, ensure_eq_ok_iff, exists_unit_iff, TextValid, activeRules]
  cases rule.isActive with
  | false => simp; tauto
  | true => simp; tauto

theorem validateRuleText_eq_ok_iff {text : String} :
    validateRuleText text = .ok () ↔ Text.trim text ≠ "" ∧ (Text.trim text).length ≤ 300 := by
  simp [validateRuleText, ensure_eq_ok_iff, Nat.pos_iff_ne_zero]

theorem mem_activeRules {rules : List InstanceRule} {rule : InstanceRule} :
    rule ∈ activeRules rules ↔ rule ∈ rules ∧ rule.isActive = true :=
  List.mem_filter

theorem mem_listInstanceRules {rules : List InstanceRule} {rule : InstanceRule} :
    rule ∈ listInstanceRules rules ↔ rule ∈ rules ∧ rule.isActive = true := by
  rw [listInstanceRules, Keyset.mem_arrange, mem_activeRules]

section

variable {rules : List InstanceRule}

theorem RulesValid.arranged (valid : RulesValid rules) :
    Keyset.Arranged InstanceRule.position (listInstanceRules rules) :=
  Keyset.arrange_arranged valid.positions

theorem RulesValid.listed (valid : RulesValid rules) :
    ((listInstanceRules rules).map InstanceRule.id).Nodup :=
  ((Keyset.arrange_perm _ _).map _).nodup_iff.mpr (valid.ids.sublist (List.filter_sublist.map _))

theorem RulesValid.eq_of_id (valid : RulesValid rules) {left right : InstanceRule}
    (leftMember : left ∈ rules) (rightMember : right ∈ rules) (same : left.id = right.id) :
    left = right :=
  List.inj_on_of_nodup_map valid.ids leftMember rightMember same

@[simp] theorem ids_catalogueOf (rules : List InstanceRule) :
    (catalogueOf rules).ids = (listInstanceRules rules).map InstanceRule.id := by
  simp [Catalogue.ids, catalogueOf, InstanceRule.entry, Function.comp_def]

end

inductive Agrees (bound : Nat) : Except RuleFailure (List InstanceRule × List InstanceRule) →
    Option (List RuleEntry × Catalogue) → Prop where
  | accepted {answer stored : List InstanceRule} {entries : List RuleEntry} {next : Catalogue}
      (answered : answer.map InstanceRule.entry = entries) (same : catalogueOf stored = next)
      (valid : RulesValid stored) (size : stored.length ≤ bound) :
      Agrees bound (.ok (answer, stored)) (some (entries, next))
  | refused {failure : RuleFailure} : Agrees bound (.error failure) none

/-!
## One row
-/

section

variable {rules : List InstanceRule} {rule model : InstanceRule}

def exchange (rule other : InstanceRule) : InstanceRule :=
  if other.id = rule.id then rule else other

theorem updateRule_eq_ok_iff {stored : List InstanceRule} :
    updateRule rules rule = .ok stored ↔ (TextValid rule.text ∧ 0 ≤ rule.position ∧
      (rule.isActive = true → ∀ other ∈ activeRules rules, other.id ≠ rule.id →
        other.position ≠ rule.position)) ∧ rules.map (exchange rule) = stored := by
  simp only [updateRule, bind_eq_ok_iff, exists_unit_iff, checkRule_eq_ok_iff, pure, Except.pure,
    Except.ok.injEq, activeRules, List.mem_filter, Table.mem_deleteWhere, Table.updateWhere,
    beq_eq_false_iff_ne, beq_iff_eq, and_imp]
  have swapped : (∀ other ∈ rules, other.id ≠ rule.id → other.isActive = true →
      other.position ≠ rule.position) ↔ ∀ other ∈ rules, other.isActive = true →
        other.id ≠ rule.id → other.position ≠ rule.position :=
    ⟨fun apart other member active differs => apart other member differs active,
      fun apart other member differs active => apart other member active differs⟩
  rw [swapped]
  rfl

@[simp] theorem exchange_id (rule other : InstanceRule) : (exchange rule other).id = other.id := by
  unfold exchange
  split
  case isTrue same => exact same.symm
  case isFalse => rfl

@[simp] theorem map_id_exchange (rule : InstanceRule) (rules : List InstanceRule) :
    (rules.map (exchange rule)).map InstanceRule.id = rules.map InstanceRule.id := by
  simp [Function.comp_def]

theorem exchange_cases (rule other : InstanceRule) :
    exchange rule other = rule ∨ exchange rule other = other := by
  unfold exchange
  split
  · exact .inl rfl
  · exact .inr rfl

/-- An exchange with a row that agrees in some data keeps them in every row. -/
theorem RulesValid.exchange_keeps (valid : RulesValid rules) {Value : Type}
    (read : InstanceRule → Value) (member : model ∈ rules) (sameId : rule.id = model.id)
    (same : read rule = read model) {other : InstanceRule} (stored : other ∈ rules) :
    read (exchange rule other) = read other := by
  unfold exchange
  split
  case isTrue equal => rw [same, valid.eq_of_id stored member (equal.trans sameId)]
  case isFalse => rfl

theorem findActiveRule_eq_some_iff (valid : RulesValid rules) {id : Nat} :
    findActiveRule rules id = some model ↔
      model ∈ rules ∧ model.id = id ∧ model.isActive = true :=
  Table.find?_key_eq_some_iff valid.ids

theorem mem_ids_of_found (valid : RulesValid rules) {id : Nat}
    (found : findActiveRule rules id = some model) : id ∈ (catalogueOf rules).ids := by
  obtain ⟨member, same, active⟩ := (findActiveRule_eq_some_iff valid).mp found
  rw [ids_catalogueOf, List.mem_map]
  exact ⟨model, mem_listInstanceRules.mpr ⟨member, active⟩, same⟩

theorem not_mem_ids_of_missing {id : Nat} (missing : findActiveRule rules id = none) :
    id ∉ (catalogueOf rules).ids := by
  rw [ids_catalogueOf, List.mem_map]
  rintro ⟨rule, member, same⟩
  obtain ⟨stored, active⟩ := mem_listInstanceRules.mp member
  have refused := List.find?_eq_none.mp missing rule stored
  simp [same, active] at refused

theorem RulesValid.exchange_texts (valid : RulesValid rules) (text : TextValid rule.text) :
    ∀ other ∈ rules.map (exchange rule), TextValid other.text := by
  intro other member
  obtain ⟨before, stored, rfl⟩ := List.mem_map.mp member
  rcases exchange_cases rule before with same | same
  · rw [same]
    exact text
  · rw [same]
    exact valid.texts before stored

theorem RulesValid.edit (valid : RulesValid rules) (member : model ∈ rules)
    (active : model.isActive = true) (sameId : rule.id = model.id) (text : TextValid rule.text)
    (stays : rule.isActive = true) (place : rule.position = model.position) :
    updateRule rules rule = .ok (rules.map (exchange rule)) ∧
      RulesValid (rules.map (exchange rule)) ∧
      listInstanceRules (rules.map (exchange rule)) =
        (listInstanceRules rules).map (exchange rule) := by
  have listed : model ∈ activeRules rules := mem_activeRules.mpr ⟨member, active⟩
  have activeEq :
      activeRules (rules.map (exchange rule)) = (activeRules rules).map (exchange rule) := by
    unfold activeRules
    rw [List.filter_map]
    congr 1
    apply List.filter_congr
    intro other stored
    exact valid.exchange_keeps InstanceRule.isActive member sameId (stays.trans active.symm) stored
  have placed : ∀ other ∈ activeRules rules, (exchange rule other).position = other.position := by
    intro other stored
    exact valid.exchange_keeps InstanceRule.position member sameId place (mem_activeRules.mp stored).1
  have apart : ∀ other ∈ activeRules rules, other.id ≠ rule.id →
      other.position ≠ rule.position := by
    intro other stored differs samePosition
    have same := List.inj_on_of_nodup_map valid.positions stored listed (samePosition.trans place)
    exact differs (by rw [same, sameId])
  refine ⟨updateRule_eq_ok_iff.mpr ⟨⟨text, ?_, fun _ => apart⟩, rfl⟩, ?_, ?_⟩
  · rw [place]
    exact (valid.bounded model listed).1
  · constructor
    case ids => rw [map_id_exchange]; exact valid.ids
    case texts => exact valid.exchange_texts text
    case positions =>
      have same : ((activeRules rules).map (exchange rule)).map InstanceRule.position =
          (activeRules rules).map InstanceRule.position := by
        rw [List.map_map]
        exact List.map_congr_left placed
      rw [activeEq, same]
      exact valid.positions
    case bounded =>
      intro other stored
      rw [activeEq] at stored
      obtain ⟨before, found, rfl⟩ := List.mem_map.mp stored
      rw [placed before found, List.length_map]
      exact valid.bounded before found
  · apply Keyset.arrange_eq
    · rw [Keyset.Arranged, List.pairwise_map]
      refine valid.arranged.imp_of_mem ?_
      intro first second firstMember secondMember less
      rw [placed first (Keyset.mem_arrange.mp firstMember),
        placed second (Keyset.mem_arrange.mp secondMember)]
      exact less
    · rw [activeEq]
      exact (Keyset.arrange_perm _ _).map _

theorem RulesValid.retire (valid : RulesValid rules) (text : TextValid rule.text)
    (gone : rule.isActive = false) (nonneg : 0 ≤ rule.position) :
    updateRule rules rule = .ok (rules.map (exchange rule)) ∧
      RulesValid (rules.map (exchange rule)) ∧
      listInstanceRules (rules.map (exchange rule)) =
        (listInstanceRules rules).filter fun other => other.id != rule.id := by
  have activeEq : activeRules (rules.map (exchange rule)) =
      (activeRules rules).filter fun other => other.id != rule.id := by
    have exchanged : rules.map (exchange rule) =
        Table.updateWhere (fun other => other.id == rule.id) (fun _ => rule) rules := by
      simp [Table.updateWhere, exchange]
    unfold activeRules
    rw [exchanged, Table.filter_updateWhere_gone fun _ _ => gone]
    rfl
  refine ⟨updateRule_eq_ok_iff.mpr ⟨⟨text, nonneg, fun active => ?_⟩, rfl⟩, ?_, ?_⟩
  · rw [gone] at active
    cases active
  · constructor
    case ids => rw [map_id_exchange]; exact valid.ids
    case texts => exact valid.exchange_texts text
    case positions =>
      rw [activeEq]
      exact valid.positions.sublist (List.filter_sublist.map _)
    case bounded =>
      intro other stored
      rw [activeEq] at stored
      rw [List.length_map]
      exact valid.bounded other (List.mem_filter.mp stored).1
  · unfold listInstanceRules
    rw [activeEq, Keyset.arrange_filter valid.positions]

/-- A new rule stands behind all others, as long as positions do not run out. -/
theorem RulesValid.nextPosition_spec (valid : RulesValid rules) (few : rules.length ≤ 1000000) :
    (∀ other ∈ activeRules rules, other.position < nextPosition rules) ∧ 0 ≤ nextPosition rules ∧
      nextPosition rules ≤ rules.length := by
  unfold nextPosition
  cases newest : (Keyset.arrange (OrderDual.toDual ∘ InstanceRule.position)
      (activeRules rules)).head? with
  | none =>
      have empty : activeRules rules = [] := by
        have none := List.head?_eq_none_iff.mp newest
        rw [← List.length_eq_zero_iff, Keyset.length_arrange] at none
        exact List.length_eq_zero_iff.mp none
      simp [empty]
  | some last =>
      have distinct : ((activeRules rules).map (OrderDual.toDual ∘ InstanceRule.position)).Nodup := by
        rw [← List.map_map]
        exact valid.positions.map OrderDual.toDual.injective
      obtain ⟨member, greatest⟩ := Keyset.head?_arrange distinct newest
      obtain ⟨nonneg, bounded⟩ := valid.bounded last member
      have next : saturatingAdd last.position 1 = last.position + 1 := by
        unfold saturatingAdd
        omega
      rw [Option.elim_some, next]
      refine ⟨fun other stored => ?_, by omega, by omega⟩
      have less : other.position ≤ last.position := greatest other stored
      omega

theorem RulesValid.append (valid : RulesValid rules) (few : rules.length ≤ 1000000)
    (fresh : rule.id ∉ rules.map InstanceRule.id) (text : TextValid rule.text)
    (active : rule.isActive = true) (place : rule.position = nextPosition rules) :
    insertRule rules rule = .ok (rules ++ [rule]) ∧ RulesValid (rules ++ [rule]) ∧
      listInstanceRules (rules ++ [rule]) = listInstanceRules rules ++ [rule] := by
  obtain ⟨last, nonneg, bounded⟩ := valid.nextPosition_spec few
  rw [← place] at last nonneg bounded
  have activeEq : activeRules (rules ++ [rule]) = activeRules rules ++ [rule] := by
    simp [activeRules, List.filter_append, active]
  have perm : (listInstanceRules rules ++ [rule]).Perm (activeRules (rules ++ [rule])) := by
    rw [activeEq]
    exact (Keyset.arrange_perm _ _).append_right _
  have arranged : Keyset.Arranged InstanceRule.position (listInstanceRules rules ++ [rule]) := by
    refine List.pairwise_append.mpr ⟨valid.arranged, List.pairwise_singleton _ _, ?_⟩
    intro other member new isNew
    rw [List.mem_singleton.mp isNew]
    exact last other (Keyset.mem_arrange.mp member)
  refine ⟨?_, ?_, Keyset.arrange_eq arranged perm⟩
  · have absent : (!rules.any fun other => other.id == rule.id) = true := by
      rw [Bool.not_eq_true', List.any_eq_false]
      intro other stored same
      exact fresh (List.mem_map.mpr ⟨other, stored, beq_iff_eq.mp same⟩)
    have checked : checkRule rules rule = .ok () := checkRule_eq_ok_iff.mpr
      ⟨text, nonneg, fun _ other member => ne_of_lt (last other member)⟩
    simp [insertRule, absent, checked, pure, Except.pure]
  · constructor
    case ids =>
      rw [List.map_append, List.nodup_append]
      refine ⟨valid.ids, List.nodup_singleton _, ?_⟩
      rintro id member other isNew rfl
      exact fresh (by rwa [← List.mem_singleton.mp isNew])
    case texts =>
      intro other member
      rcases List.mem_append.mp member with old | new
      · exact valid.texts other old
      · rw [List.mem_singleton.mp new]
        exact text
    case positions => exact (perm.map _).nodup_iff.mp arranged.distinct
    case bounded =>
      intro other member
      rw [activeEq] at member
      rw [List.length_append, List.length_singleton]
      rcases List.mem_append.mp member with old | new
      · obtain ⟨low, high⟩ := valid.bounded other old
        exact ⟨low, by omega⟩
      · rw [List.mem_singleton.mp new]
        exact ⟨nonneg, by omega⟩

end

/-!
## A new order
-/

def placed (place : Nat → Int) (stamp : InstanceRule → Int) (ids : List Nat)
    (rule : InstanceRule) : InstanceRule :=
  if rule.id ∈ ids then
    { rule with position := place (ids.idxOf rule.id), updatedAt := stamp rule }
  else rule

structure Placeable (place : Nat → Int) (ids : List Nat) (rules : List InstanceRule) : Prop where
  unique : (rules.map InstanceRule.id).Nodup
  texts : ∀ rule ∈ rules, TextValid rule.text
  distinct : ids.Nodup
  known : ∀ id ∈ ids, id ∈ rules.map InstanceRule.id
  nonneg : ∀ index < ids.length, 0 ≤ place index
  injective : ∀ first < ids.length, ∀ second < ids.length,
    place first = place second → first = second
  apart : ∀ rule ∈ activeRules rules, ∀ index < ids.length, rule.position ≠ place index

section

variable {place : Nat → Int} {stamp : InstanceRule → Int} {ids : List Nat}
  {rules : List InstanceRule}

@[simp] theorem placed_id (rule : InstanceRule) : (placed place stamp ids rule).id = rule.id := by
  unfold placed
  split <;> rfl

@[simp] theorem placed_text (rule : InstanceRule) :
    (placed place stamp ids rule).text = rule.text := by
  unfold placed
  split <;> rfl

@[simp] theorem placed_isActive (rule : InstanceRule) :
    (placed place stamp ids rule).isActive = rule.isActive := by
  unfold placed
  split <;> rfl

theorem placed_position {rule : InstanceRule} (member : rule.id ∈ ids) :
    (placed place stamp ids rule).position = place (ids.idxOf rule.id) := by
  rw [placed, if_pos member]

@[simp] theorem map_id_placed (rules : List InstanceRule) :
    (rules.map (placed place stamp ids)).map InstanceRule.id = rules.map InstanceRule.id := by
  simp [Function.comp_def]

theorem Placeable.next {id : Nat} (placeable : Placeable place (id :: ids) rules) :
    ∃ model, rules.find? (fun rule => rule.id == id) = some model ∧
      updateRule rules { model with position := place 0, updatedAt := stamp model } =
        .ok (rules.map (exchange { model with position := place 0, updatedAt := stamp model })) ∧
      Placeable (fun index => place (index + 1)) ids
        (rules.map (exchange { model with position := place 0, updatedAt := stamp model })) ∧
      (rules.map (exchange { model with position := place 0, updatedAt := stamp model })).map
          (placed (fun index => place (index + 1)) stamp ids) =
        rules.map (placed place stamp (id :: ids)) := by
  obtain ⟨model, stored, sameId⟩ := List.mem_map.mp (placeable.known id List.mem_cons_self)
  have zero : 0 < (id :: ids).length := Nat.succ_pos _
  refine ⟨model, (Table.find?_primary_eq_some_iff placeable.unique).mpr ⟨stored, sameId⟩, ?_, ?_, ?_⟩
  · refine updateRule_eq_ok_iff.mpr ⟨⟨placeable.texts model stored, placeable.nonneg 0 zero, ?_⟩, rfl⟩
    intro _ other member _
    exact placeable.apart other member 0 zero
  · constructor
    case unique => rw [map_id_exchange]; exact placeable.unique
    case texts =>
      intro other member
      obtain ⟨before, old, rfl⟩ := List.mem_map.mp member
      rcases exchange_cases { model with position := place 0, updatedAt := stamp model } before
        with same | same
      · rw [same]
        exact placeable.texts model stored
      · rw [same]
        exact placeable.texts before old
    case distinct => exact (List.nodup_cons.mp placeable.distinct).2
    case known =>
      rw [map_id_exchange]
      exact fun other member => placeable.known other (List.mem_cons_of_mem _ member)
    case nonneg => exact fun index less => placeable.nonneg (index + 1) (Nat.succ_lt_succ less)
    case injective =>
      intro first firstLess second secondLess same
      exact Nat.succ.inj (placeable.injective _ (Nat.succ_lt_succ firstLess) _
        (Nat.succ_lt_succ secondLess) same)
    case apart =>
      intro other member index less samePosition
      obtain ⟨found, active⟩ := mem_activeRules.mp member
      obtain ⟨before, old, rfl⟩ := List.mem_map.mp found
      rcases exchange_cases { model with position := place 0, updatedAt := stamp model } before
        with same | same
      · rw [same] at samePosition
        have taken := placeable.injective 0 zero (index + 1) (Nat.succ_lt_succ less) samePosition
        cases taken
      · rw [same] at samePosition active
        exact placeable.apart before (mem_activeRules.mpr ⟨old, active⟩) (index + 1)
          (Nat.succ_lt_succ less) samePosition
  · rw [List.map_map]
    apply List.map_congr_left
    intro rule member
    have outside := (List.nodup_cons.mp placeable.distinct).1
    by_cases same : rule.id = id
    · have equal : rule = model :=
        List.inj_on_of_nodup_map placeable.unique member stored (same.trans sameId.symm)
      subst equal
      subst same
      simp [Function.comp_apply, exchange, placed, outside]
    · have differs : rule.id ≠ model.id := fun equal => same (equal.trans sameId)
      have index : (id :: ids).idxOf rule.id = ids.idxOf rule.id + 1 :=
        List.idxOf_cons_ne _ (Ne.symm same)
      simp [Function.comp_apply, exchange, placed, differs, same, index]

theorem Placeable.runs {start : Nat}
    (placeable : Placeable (fun index => place (start + index)) ids rules) :
    (ids.zipIdx start).foldlM (placeRule place stamp) rules =
      .ok (rules.map (placed (fun index => place (start + index)) stamp ids)) := by
  induction ids generalizing start rules with
  | nil =>
      have same : rules.map (placed (fun index => place (start + index)) stamp []) = rules :=
        List.map_id'' (fun rule => if_neg List.not_mem_nil) rules
      rw [same]
      rfl
  | cons id ids ih =>
      obtain ⟨model, found, updated, rest, final⟩ := @Placeable.next _ stamp _ _ _ placeable
      have shifted : (fun index => place (start + (index + 1))) =
          fun index => place (start + 1 + index) := by
        funext index
        congr 1
        omega
      rw [shifted] at rest final
      have later := ih rest
      rw [final] at later
      rw [List.zipIdx_cons, List.foldlM_cons, placeRule, found, okOr_some, ok_bind]
      change updateRule rules { model with position := place (start + 0), updatedAt := stamp model }
        >>= (fun stored => (ids.zipIdx (start + 1)).foldlM (placeRule place stamp) stored) = _
      rw [updated, ok_bind]
      exact later

theorem Placeable.placeRules (placeable : Placeable place ids rules) :
    placeRules place stamp ids rules = .ok (rules.map (placed place stamp ids)) := by
  have shifted : (fun index => place (0 + index)) = place := funext fun index => by rw [Nat.zero_add]
  rw [← shifted] at placeable
  have ran := @Placeable.runs _ stamp _ _ _ placeable
  rw [shifted] at ran
  exact ran

theorem indexAsI32_eq {index : Nat} (small : index < 2 ^ 31) : indexAsI32 index = index := by
  unfold indexAsI32
  rw [Int.bmod_eq_of_le] <;> omega

def aside (index : Nat) : Int :=
  saturatingAdd 1000000 (indexAsI32 index)

theorem aside_eq {index : Nat} (small : index < 1000000) : aside index = 1000000 + index := by
  unfold aside saturatingAdd
  rw [indexAsI32_eq (by omega)]
  omega

theorem mergeSort_eq_iff {first second : List Nat} :
    first.mergeSort = second.mergeSort ↔ first.Perm second := by
  constructor
  · intro same
    have perm := (List.mergeSort_perm first (· ≤ ·)).symm
    rw [same] at perm
    exact perm.trans (List.mergeSort_perm second (· ≤ ·))
  · intro perm
    refine List.Perm.eq_of_pairwise (fun _ _ _ _ less greater => le_antisymm less greater)
      (List.pairwise_mergeSort' (· ≤ ·) first) (List.pairwise_mergeSort' (· ≤ ·) second) ?_
    exact ((List.mergeSort_perm first _).trans perm).trans (List.mergeSort_perm second _).symm

structure Names (ids : List Nat) (rules : List InstanceRule) : Prop where
  distinct : ids.Nodup
  active : ∀ rule ∈ rules, rule.id ∈ ids ↔ rule.isActive = true
  known : ∀ id ∈ ids, id ∈ rules.map InstanceRule.id
  few : ids.length ≤ rules.length

theorem RulesValid.names (valid : RulesValid rules)
    (perm : ids.Perm ((listInstanceRules rules).map InstanceRule.id)) : Names ids rules := by
  constructor
  case distinct => exact perm.nodup_iff.mpr valid.listed
  case active =>
    intro rule stored
    rw [perm.mem_iff, List.mem_map]
    constructor
    · rintro ⟨other, member, same⟩
      obtain ⟨found, active⟩ := mem_listInstanceRules.mp member
      rwa [← valid.eq_of_id found stored same]
    · intro active
      exact ⟨rule, mem_listInstanceRules.mpr ⟨stored, active⟩, rfl⟩
  case known =>
    intro id member
    obtain ⟨rule, found, same⟩ := List.mem_map.mp (perm.mem_iff.mp member)
    exact List.mem_map.mpr ⟨rule, (mem_listInstanceRules.mp found).1, same⟩
  case few =>
    rw [perm.length_eq, List.length_map, listInstanceRules, Keyset.length_arrange]
    exact List.length_filter_le _ _

theorem RulesValid.placeable_aside (valid : RulesValid rules) (names : Names ids rules)
    (few : rules.length ≤ 1000000) : Placeable aside ids rules := by
  have small : ∀ index < ids.length, aside index = 1000000 + index := fun index less =>
    aside_eq (Nat.lt_of_lt_of_le less (names.few.trans few))
  constructor
  case unique => exact valid.ids
  case texts => exact valid.texts
  case distinct => exact names.distinct
  case known => exact names.known
  case nonneg =>
    intro index less
    rw [small index less]
    omega
  case injective =>
    intro first firstLess second secondLess same
    rw [small first firstLess, small second secondLess] at same
    omega
  case apart =>
    intro rule member index less
    have bounded := (valid.bounded rule member).2
    rw [small index less]
    omega

/-- The second round returns to the least positions, which are free by then. -/
theorem Names.placeable_index (names : Names ids rules) (placeable : Placeable aside ids rules)
    (few : rules.length ≤ 1000000) (stamp : InstanceRule → Int) :
    Placeable indexAsI32 ids (rules.map (placed aside stamp ids)) := by
  have bound := names.few.trans few
  have small : ∀ index < ids.length, indexAsI32 index = index := fun index less =>
    indexAsI32_eq (by omega)
  constructor
  case unique => rw [map_id_placed]; exact placeable.unique
  case texts =>
    intro rule member
    obtain ⟨before, stored, rfl⟩ := List.mem_map.mp member
    rw [placed_text]
    exact placeable.texts before stored
  case distinct => exact names.distinct
  case known => rw [map_id_placed]; exact names.known
  case nonneg =>
    intro index less
    rw [small index less]
    omega
  case injective =>
    intro first firstLess second secondLess same
    rw [small first firstLess, small second secondLess] at same
    omega
  case apart =>
    intro rule member index less
    obtain ⟨found, active⟩ := mem_activeRules.mp member
    obtain ⟨before, stored, rfl⟩ := List.mem_map.mp found
    rw [placed_isActive] at active
    have named := (names.active before stored).mpr active
    rw [placed_position named, aside_eq (Nat.lt_of_lt_of_le (List.idxOf_lt_length_of_mem named) bound),
      small index less]
    omega

def reordered (now : Int) (ids : List Nat) (rules : List InstanceRule) : List InstanceRule :=
  (rules.map (placed aside InstanceRule.updatedAt ids)).map (placed indexAsI32 (fun _ => now) ids)

theorem RulesValid.reorder_eq (valid : RulesValid rules) (few : rules.length ≤ 1000000) (now : Int)
    (perm : ids.Perm ((listInstanceRules rules).map InstanceRule.id)) :
    reorderInstanceRules rules now ids =
      .ok (listInstanceRules (reordered now ids rules), reordered now ids rules) := by
  have names := valid.names perm
  have first := valid.placeable_aside names few
  have sorted : (((listInstanceRules rules).map InstanceRule.id).mergeSort == ids.mergeSort) = true :=
    beq_iff_eq.mpr (mergeSort_eq_iff.mpr perm.symm)
  have firstRan : Moderation.placeRules (fun index => saturatingAdd 1000000 (indexAsI32 index))
      InstanceRule.updatedAt ids rules = .ok (rules.map (placed aside InstanceRule.updatedAt ids)) :=
    first.placeRules
  unfold reorderInstanceRules
  dsimp only
  rw [sorted, ensure_true, ok_bind, firstRan, ok_bind,
    (names.placeable_index first few InstanceRule.updatedAt).placeRules, ok_bind]
  rfl

theorem arranged_idxOf (distinct : ids.Nodup) :
    Keyset.Arranged (fun id => (ids.idxOf id : Int)) ids := by
  rw [Keyset.Arranged, List.pairwise_iff_getElem]
  intro first second firstLess secondLess less
  rw [distinct.idxOf_getElem, distinct.idxOf_getElem]
  exact Int.ofNat_lt.mpr less

theorem mem_reordered {now : Int} {rule : InstanceRule} (member : rule ∈ reordered now ids rules) :
    ∃ before ∈ rules, rule.id = before.id ∧ rule.text = before.text ∧
      rule.isActive = before.isActive ∧
      (rule.id ∈ ids → rule.position = indexAsI32 (ids.idxOf rule.id)) := by
  obtain ⟨middle, found, rfl⟩ := List.mem_map.mp member
  obtain ⟨before, stored, rfl⟩ := List.mem_map.mp found
  refine ⟨before, stored, by simp, by simp, by simp, ?_⟩
  rw [placed_id]
  exact placed_position

/-- The rules stand in the order that was asked for, and nothing else is new. -/
theorem RulesValid.reorder_spec (valid : RulesValid rules) (few : rules.length ≤ 1000000) (now : Int)
    (perm : ids.Perm ((listInstanceRules rules).map InstanceRule.id)) :
    RulesValid (reordered now ids rules) ∧
      (listInstanceRules (reordered now ids rules)).map InstanceRule.id = ids := by
  have names := valid.names perm
  have bound := names.few.trans few
  have mapIds : (reordered now ids rules).map InstanceRule.id = rules.map InstanceRule.id := by
    rw [reordered, map_id_placed, map_id_placed]
  have unique : ((reordered now ids rules).map InstanceRule.id).Nodup := by
    rw [mapIds]
    exact valid.ids
  -- an active rule has the position of its index
  have positions : ∀ rule ∈ activeRules (reordered now ids rules),
      rule.id ∈ ids ∧ rule.position = ids.idxOf rule.id := by
    intro rule member
    obtain ⟨found, active⟩ := mem_activeRules.mp member
    obtain ⟨before, stored, sameId, _, sameActive, position⟩ := mem_reordered found
    have named : rule.id ∈ ids := by
      rw [sameId]
      exact (names.active before stored).mpr (sameActive.symm.trans active)
    have less := List.idxOf_lt_length_of_mem named
    exact ⟨named, by rw [position named, indexAsI32_eq (by omega)]⟩
  have distinct : ((activeRules (reordered now ids rules)).map InstanceRule.position).Nodup := by
    have rows := (List.Nodup.of_map _ unique).filter InstanceRule.isActive
    refine rows.map_on fun first firstMember second secondMember same => ?_
    obtain ⟨named, here⟩ := positions first firstMember
    obtain ⟨_, there⟩ := positions second secondMember
    rw [here, there, Int.ofNat_inj] at same
    exact List.inj_on_of_nodup_map unique (mem_activeRules.mp firstMember).1
      (mem_activeRules.mp secondMember).1 ((List.idxOf_inj named).mp same)
  constructor
  · constructor
    case ids => exact unique
    case texts =>
      intro rule member
      obtain ⟨before, stored, _, sameText, _⟩ := mem_reordered member
      rw [sameText]
      exact valid.texts before stored
    case positions => exact distinct
    case bounded =>
      intro rule member
      obtain ⟨named, position⟩ := positions rule member
      have less := List.idxOf_lt_length_of_mem named
      have size : (reordered now ids rules).length = rules.length := by simp [reordered]
      rw [position, size]
      have few := names.few
      omega
  · have arranged : Keyset.Arranged (fun id => (ids.idxOf id : Int))
        ((listInstanceRules (reordered now ids rules)).map InstanceRule.id) := by
      rw [Keyset.Arranged, List.pairwise_map]
      refine (Keyset.arrange_arranged distinct).imp_of_mem ?_
      intro first second firstMember secondMember less
      rwa [(positions first (Keyset.mem_arrange.mp firstMember)).2,
        (positions second (Keyset.mem_arrange.mp secondMember)).2] at less
    refine arranged.eq_of_perm (arranged_idxOf names.distinct) ?_
    rw [List.perm_ext_iff_of_nodup arranged.distinct.of_map names.distinct]
    intro id
    rw [List.mem_map]
    constructor
    · rintro ⟨rule, member, rfl⟩
      exact (positions rule (Keyset.mem_arrange.mp member)).1
    · intro member
      have known := names.known id member
      rw [← mapIds, List.mem_map] at known
      obtain ⟨rule, stored, rfl⟩ := known
      obtain ⟨before, found, sameId, _, sameActive, _⟩ := mem_reordered stored
      refine ⟨rule, mem_listInstanceRules.mpr ⟨stored, ?_⟩, rfl⟩
      rw [sameActive]
      exact (names.active before found).mp (sameId ▸ member)

theorem filterMap_find {catalogue : Catalogue} (distinct : catalogue.ids.Nodup)
    {entries : List RuleEntry} (known : ∀ entry ∈ entries, entry ∈ catalogue.entries) :
    (entries.map RuleEntry.id).filterMap catalogue.find = entries := by
  induction entries with
  | nil => rfl
  | cons entry entries ih =>
      have found : catalogue.find entry.id = some entry :=
        (Table.find?_primary_eq_some_iff distinct).mpr ⟨known entry List.mem_cons_self, rfl⟩
      rw [List.map_cons, List.filterMap_cons_some found,
        ih fun other member => known other (List.mem_cons_of_mem _ member)]

theorem RulesValid.reorder_entries (valid : RulesValid rules) (few : rules.length ≤ 1000000)
    (now : Int) (perm : ids.Perm ((listInstanceRules rules).map InstanceRule.id)) :
    catalogueOf (reordered now ids rules) =
      { catalogueOf rules with entries := ids.filterMap (catalogueOf rules).find } := by
  obtain ⟨_, order⟩ := valid.reorder_spec few now perm
  have distinct : (catalogueOf rules).ids.Nodup := by
    rw [ids_catalogueOf]
    exact valid.listed
  have mapIds : (reordered now ids rules).map InstanceRule.id = rules.map InstanceRule.id := by
    rw [reordered, map_id_placed, map_id_placed]
  have entries : ids.filterMap (catalogueOf rules).find =
      (listInstanceRules (reordered now ids rules)).map InstanceRule.entry := by
    have kept := @filterMap_find (catalogueOf rules) distinct
      ((listInstanceRules (reordered now ids rules)).map InstanceRule.entry) ?_
    · rw [List.map_map] at kept
      rw [← kept]
      congr 1
      exact order.symm
    · intro entry member
      obtain ⟨rule, listed, rfl⟩ := List.mem_map.mp member
      obtain ⟨found, active⟩ := mem_listInstanceRules.mp listed
      obtain ⟨before, stored, sameId, sameText, sameActive, _⟩ := mem_reordered found
      refine List.mem_map.mpr ⟨before, mem_listInstanceRules.mpr ⟨stored, ?_⟩, ?_⟩
      · exact sameActive.symm.trans active
      · rw [InstanceRule.entry, InstanceRule.entry, sameId, sameText]
  rw [entries, catalogueOf, catalogueOf, mapIds]

end

/-!
## Moves
-/

@[simp] theorem swap_self (ids : List Nat) (index : Nat) : swap ids index index = ids := by
  unfold swap
  cases found : ids[index]? with
  | none => rfl
  | some id =>
      obtain ⟨less, rfl⟩ := List.getElem?_eq_some_iff.mp found
      simp

@[simp] theorem swap_cons (id : Nat) (ids : List Nat) (first second : Nat) :
    swap (id :: ids) (first + 1) (second + 1) = id :: swap ids first second := by
  simp only [swap, List.getElem?_cons_succ, List.set_cons_succ]
  split <;> rfl

namespace Catalogue

variable {id : Nat}

theorem promote_perm (id : Nat) (entries : List RuleEntry) : (promote id entries).Perm entries := by
  induction entries with
  | nil => exact .refl _
  | cons first rest ih =>
      cases rest with
      | nil => exact .refl _
      | cons second rest =>
          unfold promote
          split
          · exact .swap _ _ _
          · exact ih.cons _

theorem demote_perm (id : Nat) (entries : List RuleEntry) : (demote id entries).Perm entries := by
  induction entries with
  | nil => exact .refl _
  | cons first rest ih =>
      cases rest with
      | nil => exact .refl _
      | cons second rest =>
          unfold demote
          split
          · exact .swap _ _ _
          · exact ih.cons _

theorem promote_absent {first : RuleEntry} {rest : List RuleEntry}
    (absent : id ∉ rest.map RuleEntry.id) : promote id (first :: rest) = first :: rest := by
  induction rest generalizing first with
  | nil => rfl
  | cons second rest ih =>
      rw [List.map_cons, List.mem_cons, not_or] at absent
      rw [promote, if_neg (Ne.symm absent.1), ih absent.2]

theorem promote_ids {entries : List RuleEntry} {index : Nat}
    (distinct : (entries.map RuleEntry.id).Nodup)
    (found : (entries.map RuleEntry.id).idxOf? id = some index) :
    (promote id entries).map RuleEntry.id = swap (entries.map RuleEntry.id) index (index - 1) := by
  induction entries generalizing index with
  | nil => cases found
  | cons first rest ih =>
      obtain ⟨outside, distinct⟩ := List.nodup_cons.mp distinct
      rw [List.map_cons, List.idxOf?_cons] at found
      by_cases here : first.id = id
      · rw [if_pos (beq_iff_eq.mpr here)] at found
        cases found
        rw [promote_absent (here ▸ outside), swap_self]
      · rw [if_neg (by simpa using here)] at found
        obtain ⟨place, later, rfl⟩ := Option.map_eq_some_iff.mp found
        have kept := ih distinct later
        cases rest with
        | nil => cases later
        | cons second rest =>
            rw [List.map_cons, List.idxOf?_cons] at later
            by_cases next : second.id = id
            · rw [if_pos (beq_iff_eq.mpr next)] at later
              cases later
              rw [promote, if_pos next]
              rfl
            · rw [if_neg (by simpa using next)] at later
              obtain ⟨before, _, rfl⟩ := Option.map_eq_some_iff.mp later
              rw [promote, if_neg next, List.map_cons, kept]
              simp

theorem demote_ids {entries : List RuleEntry} {index : Nat}
    (found : (entries.map RuleEntry.id).idxOf? id = some index) :
    (demote id entries).map RuleEntry.id =
      swap (entries.map RuleEntry.id) index (min (index + 1) (entries.length - 1)) := by
  induction entries generalizing index with
  | nil => cases found
  | cons first rest ih =>
      rw [List.map_cons, List.idxOf?_cons] at found
      cases rest with
      | nil =>
          by_cases here : first.id = id
          · rw [if_pos (beq_iff_eq.mpr here)] at found
            cases found
            rfl
          · rw [if_neg (by simpa using here)] at found
            cases found
      | cons second rest =>
          by_cases here : first.id = id
          · rw [if_pos (beq_iff_eq.mpr here)] at found
            cases found
            rw [demote, if_pos here]
            simp [swap]
          · rw [if_neg (by simpa using here)] at found
            obtain ⟨place, later, rfl⟩ := Option.map_eq_some_iff.mp found
            have next : min (place + 1 + 1) ((first :: second :: rest).length - 1) =
                min (place + 1) ((second :: rest).length - 1) + 1 := by
              simp only [List.length_cons]
              omega
            rw [demote, if_neg here, List.map_cons, ih later, next]
            exact (swap_cons _ _ _ _).symm

end Catalogue

/-!
## Requests
-/

section

variable {rules : List InstanceRule}

theorem catalogueOf_known (rules : List InstanceRule) (id : Nat) :
    id ∈ (catalogueOf rules).known ↔ id ∈ rules.map InstanceRule.id :=
  List.mem_toFinset

/-- A result that is none of the accepted ones. -/
theorem Agrees.refused_of {bound : Nat}
    {result : Except RuleFailure (List InstanceRule × List InstanceRule)}
    (never : ∀ outcome, result ≠ .ok outcome) : Agrees bound result none := by
  cases result with
  | error failure => exact .refused
  | ok outcome => exact absurd rfl (never outcome)

theorem createInstanceRule_ok {id : Nat} {now : Int} {text : String}
    {outcome : InstanceRule × List InstanceRule}
    (created : createInstanceRule rules id now text = .ok outcome) :
    TextValid (Text.trim text) ∧ id ∉ rules.map InstanceRule.id := by
  obtain ⟨_, _, created⟩ := bind_ok created
  obtain ⟨stored, inserted, _⟩ := bind_ok created
  simp only [insertRule, bind_eq_ok_iff, exists_unit_iff, ensure_eq_ok_iff] at inserted
  obtain ⟨absent, checked, _⟩ := inserted
  refine ⟨(checkRule_eq_ok_iff.mp checked).1, fun known => ?_⟩
  obtain ⟨rule, member, same⟩ := List.mem_map.mp known
  simp only [Bool.not_eq_true', List.any_eq_false] at absent
  exact absent rule member (beq_iff_eq.mpr same)

theorem create_agrees (valid : RulesValid rules) (few : rules.length ≤ 1000000) (id : Nat)
    (now : Int) (text : String) :
    Agrees (rules.length + 1) (performRuleCall rules (.create id now text))
      ((catalogueOf rules).perform (.create id now text)) := by
  simp only [Catalogue.perform, catalogueOf_known]
  split
  case isTrue accepted =>
    obtain ⟨textValid, fresh⟩ := accepted
    obtain ⟨inserted, stays, listed⟩ := @RulesValid.append rules
      ⟨id, Text.trim text, nextPosition rules, now, now, none⟩ valid few fresh textValid rfl rfl
    have validated : validateRuleText text = .ok () :=
      validateRuleText_eq_ok_iff.mpr ⟨textValid.1, textValid.2.1⟩
    have performed : performRuleCall rules (.create id now text) =
        .ok ([⟨id, Text.trim text, nextPosition rules, now, now, none⟩],
          rules ++ [⟨id, Text.trim text, nextPosition rules, now, now, none⟩]) := by
      simp only [performRuleCall, createInstanceRule, validated, ok_bind, inserted]
      rfl
    rw [performed]
    refine .accepted rfl (Catalogue.ext ?_ ?_) stays (by rw [List.length_append]; exact le_refl _)
    · rw [catalogueOf, listed, List.map_append]
      rfl
    · ext other
      rw [catalogueOf_known, List.map_append, List.mem_append, Finset.mem_insert, catalogueOf_known,
        List.map_singleton, List.mem_singleton]
      exact or_comm
  case isFalse refused =>
    refine .refused_of fun outcome performed => refused ?_
    obtain ⟨created, ran, _⟩ := bind_ok performed
    exact createInstanceRule_ok (mapError_eq_ok_iff.mp ran)

theorem update_agrees (valid : RulesValid rules) (id : Nat) (now : Int) (text : String) :
    Agrees rules.length (performRuleCall rules (.update id now text))
      ((catalogueOf rules).perform (.update id now text)) := by
  cases found : findActiveRule rules id with
  | none =>
      simp only [Catalogue.perform, not_mem_ids_of_missing found, and_false, if_false]
      refine .refused_of fun outcome performed => ?_
      obtain ⟨updated, ran, performed⟩ := bind_ok performed
      obtain ⟨_, _, ran⟩ := bind_ok (mapError_eq_ok_iff.mp ran)
      rw [found] at ran
      cases ran
      obtain ⟨_, missing, _⟩ := bind_ok performed
      cases missing
  | some model =>
      obtain ⟨member, rfl, active⟩ := (findActiveRule_eq_some_iff valid).mp found
      simp only [Catalogue.perform, mem_ids_of_found valid found, and_true]
      split
      case isTrue textValid =>
        obtain ⟨updated, stays, listed⟩ := @RulesValid.edit rules
          { model with text := Text.trim text, updatedAt := now } model valid member active rfl
          textValid active rfl
        have validated : validateRuleText text = .ok () :=
          validateRuleText_eq_ok_iff.mpr ⟨textValid.1, textValid.2.1⟩
        have performed : performRuleCall rules (.update model.id now text) =
            .ok ([{ model with text := Text.trim text, updatedAt := now }],
              rules.map (exchange { model with text := Text.trim text, updatedAt := now })) := by
          simp only [performRuleCall, updateInstanceRule, validated, ok_bind, found, updated]
          rfl
        rw [performed]
        refine .accepted rfl (Catalogue.ext ?_ ?_) stays (by rw [List.length_map])
        · rw [catalogueOf, listed, catalogueOf]
          dsimp only
          rw [List.map_map, List.map_map]
          apply List.map_congr_left
          intro rule _
          have entryId : rule.entry.id = rule.id := rfl
          rw [Function.comp_apply, Function.comp_apply, exchange, entryId]
          by_cases same : rule.id = model.id
          · rw [if_pos same, if_pos same]
            rfl
          · rw [if_neg same, if_neg same]
        · rw [catalogueOf, map_id_exchange]
          rfl
      case isFalse refused =>
        refine .refused_of fun outcome performed => refused ?_
        obtain ⟨updated, ran, _⟩ := bind_ok performed
        obtain ⟨_, _, ran⟩ := bind_ok (mapError_eq_ok_iff.mp ran)
        rw [found] at ran
        obtain ⟨stored, ran, _⟩ := bind_ok ran
        exact (updateRule_eq_ok_iff.mp ran).1.1

theorem discard_agrees (valid : RulesValid rules) (id : Nat) (now : Int) :
    Agrees rules.length (performRuleCall rules (.discard id now))
      ((catalogueOf rules).perform (.discard id now)) := by
  cases found : findActiveRule rules id with
  | none =>
      have missing : (catalogueOf rules).find id = none := by
        refine List.find?_eq_none.mpr fun entry member same => ?_
        exact not_mem_ids_of_missing found (List.mem_map.mpr ⟨entry, member, beq_iff_eq.mp same⟩)
      simp only [Catalogue.perform, missing, Option.map_none]
      refine .refused_of fun outcome performed => ?_
      simp [performRuleCall, discardInstanceRule, found, okOr, bind, Except.bind, pure, Except.pure,
        Except.mapError] at performed
  | some model =>
      obtain ⟨member, rfl, active⟩ := (findActiveRule_eq_some_iff valid).mp found
      have listed : (catalogueOf rules).find model.id = some model.entry := by
        refine (Table.find?_primary_eq_some_iff ?_).mpr ⟨?_, rfl⟩
        · have distinct := valid.listed
          rwa [← ids_catalogueOf] at distinct
        · exact List.mem_map_of_mem (mem_listInstanceRules.mpr ⟨member, active⟩)
      have nonneg := (valid.bounded model (mem_activeRules.mpr ⟨member, active⟩)).1
      obtain ⟨updated, stays, left⟩ := @RulesValid.retire rules
        { model with discardedAt := some now, updatedAt := now } valid
        (valid.texts model member) rfl nonneg
      have performed : performRuleCall rules (.discard model.id now) =
          .ok ([{ model with discardedAt := some now, updatedAt := now }],
            rules.map (exchange { model with discardedAt := some now, updatedAt := now })) := by
        simp only [performRuleCall, discardInstanceRule, found, updated, ok_bind]
        rfl
      rw [performed]
      simp only [Catalogue.perform, listed, Option.map_some]
      refine .accepted rfl (Catalogue.ext ?_ ?_) stays (by rw [List.length_map])
      · rw [catalogueOf, left, catalogueOf, List.filter_map]
        rfl
      · rw [catalogueOf, map_id_exchange]
        rfl

theorem reorder_agrees (valid : RulesValid rules) (few : rules.length ≤ 1000000) (now : Int)
    (ids : List Nat) :
    Agrees rules.length (performRuleCall rules (.reorder now ids))
      ((catalogueOf rules).perform (.reorder now ids)) := by
  simp only [Catalogue.perform, ids_catalogueOf]
  split
  case isTrue perm =>
    have entries := valid.reorder_entries few now perm
    simp only [performRuleCall, valid.reorder_eq few now perm, Except.mapError]
    refine .accepted ?_ entries (valid.reorder_spec few now perm).1 (by simp [reordered])
    exact congrArg Catalogue.entries entries
  case isFalse other =>
    refine .refused_of fun outcome performed => other ?_
    obtain ⟨_, sorted, _⟩ := bind_ok (mapError_eq_ok_iff.mp performed)
    exact (mergeSort_eq_iff.mp (beq_iff_eq.mp (ensure_ok sorted))).symm

theorem moveRule_agrees (valid : RulesValid rules) (few : rules.length ≤ 1000000) (now : Int)
    (id : Nat) {destination : Nat → Nat → Nat} {move : List RuleEntry → List RuleEntry}
    (perm : (move (catalogueOf rules).entries).Perm (catalogueOf rules).entries)
    (moved : ∀ index, (catalogueOf rules).ids.idxOf? id = some index →
      (move (catalogueOf rules).entries).map RuleEntry.id =
        swap (catalogueOf rules).ids index (destination index (catalogueOf rules).ids.length)) :
    Agrees rules.length (moveRule rules now id destination)
      (if id ∈ (catalogueOf rules).ids then
        some ([], { catalogueOf rules with entries := move (catalogueOf rules).entries })
      else none) := by
  have listed := ids_catalogueOf rules
  cases found : (catalogueOf rules).ids.idxOf? id with
  | none =>
      rw [if_neg (List.idxOf?_eq_none_iff.mp found)]
      refine .refused_of fun outcome performed => ?_
      obtain ⟨index, here, _⟩ := bind_ok performed
      rw [← listed, found] at here
      cases here
  | some index =>
      have inside : id ∈ (catalogueOf rules).ids := by
        by_contra outside
        rw [List.idxOf?_eq_none_iff.mpr outside] at found
        cases found
      have named : ((move (catalogueOf rules).entries).map RuleEntry.id).Perm
          ((listInstanceRules rules).map InstanceRule.id) := by
        rw [← listed]
        exact perm.map _
      have distinct : (catalogueOf rules).ids.Nodup := by
        rw [listed]
        exact valid.listed
      have entries := valid.reorder_entries few now named
      rw [filterMap_find distinct fun entry member => perm.mem_iff.mp member] at entries
      have performed : moveRule rules now id destination =
          .ok ([], reordered now ((move (catalogueOf rules).entries).map RuleEntry.id) rules) := by
        unfold moveRule
        dsimp only
        rw [← listed, found, okOr_some, ok_bind, ← moved index found, valid.reorder_eq few now named]
        rfl
      rw [if_pos inside, performed]
      exact .accepted rfl entries (valid.reorder_spec few now named).1 (by simp [reordered])

theorem RuleCall.agrees (valid : RulesValid rules) (few : rules.length ≤ 1000000)
    (call : RuleCall) :
    Agrees (rules.length + [call].countP RuleCall.isCreate) (performRuleCall rules call)
      ((catalogueOf rules).perform call) := by
  cases call with
  | create id now text => exact create_agrees valid few id now text
  | update id now text => exact update_agrees valid id now text
  | discard id now => exact discard_agrees valid id now
  | reorder now ids => exact reorder_agrees valid few now ids
  | up now id =>
      have distinct := valid.listed
      rw [← ids_catalogueOf] at distinct
      exact @moveRule_agrees rules valid few now id (fun index _ => index - 1)
        (Catalogue.promote id) (Catalogue.promote_perm id _)
        fun index found => Catalogue.promote_ids distinct found
  | down now id =>
      refine @moveRule_agrees rules valid few now id
        (fun index length => min (index + 1) (length - 1)) (Catalogue.demote id)
        (Catalogue.demote_perm id _) fun index found => ?_
      rw [Catalogue.demote_ids found, Catalogue.ids, List.length_map]

end

/-!
## Runs
-/

def answerOf (reply : Except RuleFailure (List InstanceRule)) : Option (List RuleEntry) :=
  reply.toOption.map fun rules => rules.map InstanceRule.entry

theorem ruleMachine_step {rules : List InstanceRule} (valid : RulesValid rules)
    (few : rules.length ≤ 1000000) (call : RuleCall) :
    RulesValid (ruleMachine.step rules call).1 ∧
      (ruleMachine.step rules call).1.length ≤ rules.length + [call].countP RuleCall.isCreate ∧
      catalogueOf (ruleMachine.step rules call).1 =
        (Catalogue.machine.step (catalogueOf rules) call).1 ∧
      answerOf (ruleMachine.step rules call).2 =
        (Catalogue.machine.step (catalogueOf rules) call).2 := by
  have agrees := call.agrees valid few
  simp only [ruleMachine, Catalogue.machine]
  generalize performRuleCall rules call = result at agrees
  generalize (catalogueOf rules).perform call = outcome at agrees
  cases agrees with
  | accepted answered same stays size => exact ⟨stays, size, same, congrArg some answered⟩
  | refused => exact ⟨valid, Nat.le_add_right _ _, rfl, rfl⟩

/-- In every run that creates at most a million rules, the table answers and lists as a list
does that is ordered by hand: a request is refused by one exactly when the other refuses it,
so that no index ever stops a new order. -/
theorem rules_refine_catalogue (calls : List RuleCall)
    (few : calls.countP RuleCall.isCreate ≤ 1000000) :
    catalogueOf (ruleMachine.run [] calls) = Catalogue.machine.run .empty calls ∧
      (ruleMachine.trace [] calls).map (Prod.map id answerOf) =
        Catalogue.machine.trace .empty calls := by
  have reached : RulesValid (ruleMachine.run [] calls) ∧
      (ruleMachine.run [] calls).length ≤ calls.countP RuleCall.isCreate ∧
      catalogueOf (ruleMachine.run [] calls) = Catalogue.machine.run .empty calls ∧
      (ruleMachine.trace [] calls).map (Prod.map id answerOf) =
        Catalogue.machine.trace .empty calls := by
    induction calls using List.reverseRecOn with
    | nil =>
        refine ⟨⟨?_, ?_, ?_, ?_⟩, le_refl _, rfl, rfl⟩
        · exact List.nodup_nil
        · exact fun _ => (absurd · List.not_mem_nil)
        · exact List.nodup_nil
        · exact fun _ => (absurd · List.not_mem_nil)
    | append_singleton calls call ih =>
        rw [List.countP_append] at few ⊢
        obtain ⟨valid, size, same, traces⟩ := ih (by omega)
        obtain ⟨stays, grown, next, answer⟩ := ruleMachine_step valid (by omega) call
        rw [Machine.run_snoc, Machine.run_snoc, Machine.trace_snoc, Machine.trace_snoc,
          List.map_append, traces, ← same, ← next, ← answer]
        exact ⟨stays, by omega, rfl, rfl⟩
  exact reached.2.2

/-- Two rules change places and come back. -/
theorem rules_refine_catalogue_moves :
    catalogueOf (ruleMachine.run [] [.create 1 0 "Be kind", .create 2 0 "No spam",
        .reorder 1 [2, 1], .up 2 1]) =
      Catalogue.machine.run .empty [.create 1 0 "Be kind", .create 2 0 "No spam",
        .reorder 1 [2, 1], .up 2 1] :=
  (rules_refine_catalogue _ (by decide)).1

end Roosty.Moderation
