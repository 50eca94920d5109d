import Roosty.Library.Json
import Mathlib.Data.List.Nodup

/-! JSON objects as maps: insertion and removal of members, the equality of the
serializer library, which ignores the order of members, and what the same objects
have in common. -/

set_option autoImplicit false

namespace Roosty.Json

/-!
## Members
-/

/-- `Map::get`. -/
def member? (name : String) (members : List (String × Json)) : Option Json :=
  (members.find? fun entry => entry.1 == name).map Prod.snd

/-- `Map::remove`. -/
def removeMember (name : String) (members : List (String × Json)) : List (String × Json) :=
  members.filter fun entry => entry.1 != name

/-- `Map::insert`. -/
def insertMember (name : String) (value : Json) : List (String × Json) → List (String × Json)
  | [] => [(name, value)]
  | entry :: members =>
      if entry.1 = name then (name, value) :: members else entry :: insertMember name value members

@[simp] theorem get?_object (members : List (String × Json)) (name : String) :
    (Json.object members).get? name = member? name members := rfl

@[simp] theorem member?_nil (name : String) : member? name [] = none := rfl

theorem member?_cons (name : String) (entry : String × Json) (members : List (String × Json)) :
    member? name (entry :: members) =
      if entry.1 = name then some entry.2 else member? name members := by
  by_cases here : entry.1 = name
  · simp [member?, here]
  · simp [member?, here]

@[simp] theorem member?_removeMember_self (name : String) (members : List (String × Json)) :
    member? name (removeMember name members) = none := by
  simp [member?, removeMember]

theorem member?_removeMember_of_ne {name other : String} (different : other ≠ name)
    (members : List (String × Json)) :
    member? other (removeMember name members) = member? other members := by
  induction members with
  | nil => rfl
  | cons entry members ih =>
      unfold removeMember at ih ⊢
      by_cases gone : entry.1 = name
      · have elsewhere : entry.1 ≠ other := fun same => different (same.symm.trans gone)
        rw [List.filter_cons_of_neg (by simp [gone]), ih, member?_cons, if_neg elsewhere]
      · rw [List.filter_cons_of_pos (by simp [gone]), member?_cons, member?_cons, ih]

@[simp] theorem member?_insertMember_self (name : String) (value : Json)
    (members : List (String × Json)) : member? name (insertMember name value members) = some value := by
  induction members with
  | nil => simp [insertMember, member?]
  | cons entry members ih =>
      unfold insertMember
      split
      · simp [member?_cons]
      next different => rw [member?_cons, if_neg different, ih]

theorem member?_insertMember_of_ne {name other : String} (different : other ≠ name) (value : Json)
    (members : List (String × Json)) :
    member? other (insertMember name value members) = member? other members := by
  induction members with
  | nil => simp [insertMember, member?, different.symm]
  | cons entry members ih =>
      unfold insertMember
      split
      next same =>
        rw [member?_cons, member?_cons, if_neg different.symm, same, if_neg different.symm]
      next => rw [member?_cons, member?_cons, ih]

@[simp] theorem removeMember_insertMember_self (name : String) (value : Json)
    (members : List (String × Json)) :
    removeMember name (insertMember name value members) = removeMember name members := by
  induction members with
  | nil => simp [insertMember, removeMember]
  | cons entry members ih =>
      unfold insertMember
      unfold removeMember at ih ⊢
      split
      next same => simp [same]
      next different =>
        rw [List.filter_cons_of_pos (by simpa using different),
          List.filter_cons_of_pos (by simpa using different), ih]

theorem mem_of_member? {name : String} {value : Json} {members : List (String × Json)}
    (found : member? name members = some value) : (name, value) ∈ members := by
  obtain ⟨entry, located, rfl⟩ := Option.map_eq_some_iff.mp found
  have named : entry.1 = name := by simpa using List.find?_some located
  rw [← named]
  exact List.mem_of_find?_eq_some located

theorem member?_of_mem {name : String} {value : Json} {members : List (String × Json)}
    (distinct : (members.map Prod.fst).Nodup) (stored : (name, value) ∈ members) :
    member? name members = some value := by
  cases found : member? name members with
  | none =>
      have missing : ∀ entry ∈ members, entry.1 ≠ name := by simpa [member?] using found
      exact absurd rfl (missing _ stored)
  | some other =>
      have same := List.inj_on_of_nodup_map distinct (mem_of_member? found) stored rfl
      cases same
      rfl

/-!
## Well-formed objects
-/

theorem mem_insertMember {name : String} {value : Json} {members : List (String × Json)}
    {entry : String × Json} (stored : entry ∈ insertMember name value members) :
    entry = (name, value) ∨ entry ∈ members := by
  induction members with
  | nil => exact .inl (List.mem_singleton.mp stored)
  | cons first members ih =>
      unfold insertMember at stored
      split at stored
      · rcases List.mem_cons.mp stored with same | later
        · exact .inl same
        · exact .inr (List.mem_cons_of_mem _ later)
      · rcases List.mem_cons.mp stored with rfl | later
        · exact .inr List.mem_cons_self
        · rcases ih later with same | later
          · exact .inl same
          · exact .inr (List.mem_cons_of_mem _ later)

private theorem insertMember_distinct {name : String} {value : Json}
    {members : List (String × Json)} (distinct : (members.map Prod.fst).Nodup) :
    ((insertMember name value members).map Prod.fst).Nodup := by
  induction members with
  | nil => simp [insertMember]
  | cons entry members ih =>
      obtain ⟨fresh, later⟩ :=
        List.nodup_cons.mp (show (entry.1 :: members.map Prod.fst).Nodup from distinct)
      unfold insertMember
      split
      next same =>
        rw [List.map_cons, List.nodup_cons, ← same]
        exact ⟨fresh, later⟩
      next different =>
        rw [List.map_cons, List.nodup_cons]
        refine ⟨?_, ih later⟩
        intro again
        obtain ⟨other, stored, same⟩ := List.mem_map.mp again
        rcases mem_insertMember stored with rfl | old
        · exact different same.symm
        · exact fresh (List.mem_map.mpr ⟨other, old, same⟩)

theorem WellFormed.insertMember {name : String} {value : Json} {members : List (String × Json)}
    (valid : (Json.object members).WellFormed) (inserted : value.WellFormed) :
    (Json.object (insertMember name value members)).WellFormed := by
  cases valid with
  | object distinct each =>
      refine .object (insertMember_distinct distinct) ?_
      intro entry stored
      rcases mem_insertMember stored with rfl | old
      · exact inserted
      · exact each entry old

theorem WellFormed.removeMember {name : String} {members : List (String × Json)}
    (valid : (Json.object members).WellFormed) :
    (Json.object (removeMember name members)).WellFormed := by
  cases valid with
  | object distinct each =>
      refine .object (distinct.sublist (List.filter_sublist.map Prod.fst)) ?_
      intro entry stored
      exact each entry (List.mem_filter.mp stored).1

theorem WellFormed.member {name : String} {value : Json} {members : List (String × Json)}
    (valid : (Json.object members).WellFormed) (found : member? name members = some value) :
    value.WellFormed := by
  cases valid with
  | object _ each => exact each (name, value) (mem_of_member? found)

/-!
## Equality of values
-/

/-- Equality of numbers: a float compares by value, so that the zeros are equal. -/
def Number.valueEq : Number → Number → Bool
  | .posInt left, .posInt right => left == right
  | .negInt left, .negInt right => left == right
  | .float left, .float right => left == right || (left <<< 1 == 0 && right <<< 1 == 0)
  | _, _ => false

mutual

/-- Equality of values; objects are equal whatever the order of their members. -/
def valueEq : Json → Json → Bool
  | .null, .null => true
  | .bool left, .bool right => left == right
  | .number left, .number right => left.valueEq right
  | .string left, .string right => left == right
  | .array left, .array right => itemsEq left right
  | .object left, .object right => left.length == right.length && membersEq left right
  | _, _ => false

def itemsEq : List Json → List Json → Bool
  | [], [] => true
  | left :: lefts, right :: rights => valueEq left right && itemsEq lefts rights
  | _, _ => false

def membersEq : List (String × Json) → List (String × Json) → Bool
  | [], _ => true
  | (name, value) :: lefts, rights =>
      (match member? name rights with
        | some other => valueEq value other
        | none => false) && membersEq lefts rights

end

private theorem itemsEq_refl {items : List Json} (each : ∀ item ∈ items, valueEq item item = true) :
    itemsEq items items = true := by
  induction items with
  | nil => rfl
  | cons item items ih =>
      rw [itemsEq, each item List.mem_cons_self, Bool.true_and]
      exact ih fun other member => each other (List.mem_cons_of_mem _ member)

private theorem membersEq_of_subset {part whole : List (String × Json)}
    (distinct : (whole.map Prod.fst).Nodup) (inside : part ⊆ whole)
    (each : ∀ entry ∈ part, valueEq entry.2 entry.2 = true) : membersEq part whole = true := by
  induction part with
  | nil => rfl
  | cons entry part ih =>
      have found := member?_of_mem distinct (show (entry.1, entry.2) ∈ whole from
        inside List.mem_cons_self)
      rw [membersEq, found]
      dsimp only
      rw [each entry List.mem_cons_self, Bool.true_and]
      exact ih (fun other member => inside (List.mem_cons_of_mem _ member))
        fun other member => each other (List.mem_cons_of_mem _ member)

theorem valueEq_refl {json : Json} (valid : json.WellFormed) : valueEq json json = true := by
  induction json using Json.inductOn with
  | null => rfl
  | bool value => simp [valueEq]
  | number value => cases value <;> simp [valueEq, Number.valueEq]
  | string value => simp [valueEq]
  | array items ih =>
      cases valid with
      | array each =>
          rw [valueEq]
          exact itemsEq_refl fun item member => ih item member (each item member)
  | object members ih =>
      cases valid with
      | object distinct each =>
          rw [valueEq, beq_self_eq_true, Bool.true_and]
          exact membersEq_of_subset distinct (List.Subset.refl _)
            fun entry member => ih entry member (each entry member)

/-!
## The same objects
-/

section

variable {sameNumber : Number → Number → Prop} {left right : List (String × Json)}

private theorem forall₂_entries {lefts rights : List (String × Json)}
    (names : lefts.map Prod.fst = rights.map Prod.fst)
    (each : List.Forall₂ (Same sameNumber) (lefts.map Prod.snd) (rights.map Prod.snd)) :
    List.Forall₂ (fun one other => one.1 = other.1 ∧ Same sameNumber one.2 other.2) lefts rights := by
  induction lefts generalizing rights with
  | nil =>
      cases rights with
      | nil => exact .nil
      | cons other rights => cases names
  | cons one lefts ih =>
      cases rights with
      | nil => cases names
      | cons other rights =>
          simp only [List.map_cons, List.cons.injEq] at names
          cases each with
          | cons here later => exact .cons ⟨names.1, here⟩ (ih names.2 later)

private theorem forall₂_split {lefts rights : List (String × Json)}
    (each : List.Forall₂ (fun one other => one.1 = other.1 ∧ Same sameNumber one.2 other.2)
      lefts rights) :
    lefts.map Prod.fst = rights.map Prod.fst ∧
      List.Forall₂ (Same sameNumber) (lefts.map Prod.snd) (rights.map Prod.snd) := by
  induction each with
  | nil => exact ⟨rfl, .nil⟩
  | cons here _ ih => exact ⟨by simp [here.1, ih.1], .cons here.2 ih.2⟩

theorem Same.removeMember (name : String)
    (same : Same sameNumber (.object left) (.object right)) :
    Same sameNumber (.object (removeMember name left)) (.object (removeMember name right)) := by
  cases same with
  | @object _ _ leftOrdered rightOrdered leftOrder names each rightOrder =>
      have kept : List.Forall₂ (fun one other => one.1 = other.1 ∧ Same sameNumber one.2 other.2)
          (leftOrdered.filter fun entry => entry.1 != name)
          (rightOrdered.filter fun entry => entry.1 != name) := by
        clear * - names each
        have entries := forall₂_entries names each
        clear names each
        induction entries with
        | nil => exact .nil
        | @cons one other lefts rights here _ ih =>
            by_cases gone : one.1 = name
            · rw [List.filter_cons_of_neg (by simp [gone]),
                List.filter_cons_of_neg (by simp [← here.1, gone])]
              exact ih
            · rw [List.filter_cons_of_pos (by simp [gone]),
                List.filter_cons_of_pos (by simp [← here.1, gone])]
              exact .cons here ih
      obtain ⟨keptNames, keptEach⟩ := forall₂_split kept
      exact .object (leftOrder.filter _) keptNames keptEach (rightOrder.filter _)

theorem Same.member {name : String} (distinct : (right.map Prod.fst).Nodup)
    (same : Same sameNumber (.object left) (.object right)) {value : Json}
    (found : member? name left = some value) :
    ∃ other, member? name right = some other ∧ Same sameNumber value other := by
  cases same with
  | @object _ _ leftOrdered rightOrdered leftOrder names each rightOrder =>
      have stored := leftOrder.mem_iff.mp (mem_of_member? found)
      have entries := forall₂_entries names each
      have partner : ∃ other ∈ rightOrdered, name = other.1 ∧ Same sameNumber value other.2 := by
        clear * - entries stored
        induction entries with
        | nil => cases stored
        | @cons one other lefts rights here _ ih =>
            rcases List.mem_cons.mp stored with rfl | later
            · exact ⟨other, List.mem_cons_self, here⟩
            · obtain ⟨partner, member, matched⟩ := ih later
              exact ⟨partner, List.mem_cons_of_mem _ member, matched⟩
      obtain ⟨other, member, named, matched⟩ := partner
      refine ⟨other.2, member?_of_mem distinct ?_, matched⟩
      rw [named]
      exact rightOrder.mem_iff.mp member

theorem Same.absent {name : String} (same : Same sameNumber (.object left) (.object right))
    (missing : member? name left = none) : member? name right = none := by
  cases same with
  | @object _ _ leftOrdered rightOrdered leftOrder names each rightOrder =>
      have apart : ∀ entry ∈ left, entry.1 ≠ name := by simpa [member?] using missing
      have outside : name ∉ rightOrdered.map Prod.fst := by
        rw [← names]
        intro stored
        obtain ⟨entry, member, named⟩ := List.mem_map.mp stored
        exact apart entry (leftOrder.mem_iff.mpr member) named
      cases found : member? name right with
      | none => rfl
      | some value =>
          have stored := rightOrder.mem_iff.mpr (mem_of_member? found)
          exact absurd (List.mem_map_of_mem stored) outside

theorem Same.member_rel (same : Same sameNumber (.object left) (.object right))
    (valid : (Json.object right).WellFormed) (name : String) :
    Option.Rel (Same sameNumber) (member? name left) (member? name right) := by
  cases valid with
  | object distinct _ =>
      cases found : member? name left with
      | none =>
          rw [same.absent found]
          exact .none
      | some value =>
          obtain ⟨other, located, matched⟩ := same.member distinct found
          rw [located]
          exact .some matched

end

end Roosty.Json
