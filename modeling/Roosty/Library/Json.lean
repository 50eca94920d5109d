import Mathlib.Data.List.Basic

/-! JSON values as the serializer library represents them. Object members are
kept in the order of the document, with member access by name. -/

set_option autoImplicit false

namespace Roosty

inductive Json.Number where
  | posInt (value : Nat)
  | negInt (value : Int)
  | float (bits : BitVec 64)
deriving DecidableEq

inductive Json where
  | null
  | bool (value : Bool)
  | number (value : Json.Number)
  | string (value : String)
  | array (items : List Json)
  | object (members : List (String × Json))

namespace Json

mutual

def sameValue : (left right : Json) → Decidable (left = right)
  | .null, .null => .isTrue rfl
  | .bool left, .bool right => decidable_of_iff (left = right) (by simp)
  | .number left, .number right => decidable_of_iff (left = right) (by simp)
  | .string left, .string right => decidable_of_iff (left = right) (by simp)
  | .array left, .array right =>
      match sameItems left right with
      | .isTrue same => .isTrue (by rw [same])
      | .isFalse differ => .isFalse (by simpa using differ)
  | .object left, .object right =>
      match sameMembers left right with
      | .isTrue same => .isTrue (by rw [same])
      | .isFalse differ => .isFalse (by simpa using differ)
  | .null, .bool _ | .null, .number _ | .null, .string _ | .null, .array _
  | .null, .object _ | .bool _, .null | .bool _, .number _ | .bool _, .string _
  | .bool _, .array _ | .bool _, .object _ | .number _, .null | .number _, .bool _
  | .number _, .string _ | .number _, .array _ | .number _, .object _
  | .string _, .null | .string _, .bool _ | .string _, .number _
  | .string _, .array _ | .string _, .object _ | .array _, .null | .array _, .bool _
  | .array _, .number _ | .array _, .string _ | .array _, .object _
  | .object _, .null | .object _, .bool _ | .object _, .number _
  | .object _, .string _ | .object _, .array _ => .isFalse (by simp)

def sameItems : (left right : List Json) → Decidable (left = right)
  | [], [] => .isTrue rfl
  | [], _ :: _ | _ :: _, [] => .isFalse (by simp)
  | left :: lefts, right :: rights =>
      match sameValue left right, sameItems lefts rights with
      | .isTrue head, .isTrue tail => .isTrue (by rw [head, tail])
      | .isFalse head, _ => .isFalse (by simp [head])
      | _, .isFalse tail => .isFalse (by simp [tail])

def sameMembers : (left right : List (String × Json)) → Decidable (left = right)
  | [], [] => .isTrue rfl
  | [], _ :: _ | _ :: _, [] => .isFalse (by simp)
  | (leftName, left) :: lefts, (rightName, right) :: rights =>
      match decEq leftName rightName, sameValue left right, sameMembers lefts rights with
      | .isTrue name, .isTrue head, .isTrue tail => .isTrue (by rw [name, head, tail])
      | .isFalse name, _, _ => .isFalse (by simp [name])
      | _, .isFalse head, _ => .isFalse (by simp [head])
      | _, _, .isFalse tail => .isFalse (by simp [tail])

end

instance : DecidableEq Json := sameValue

/-- Induction with a hypothesis for every item of an array and every value of
an object. -/
@[elab_as_elim]
theorem inductOn {motive : Json → Prop} (json : Json) (null : motive .null)
    (bool : ∀ value, motive (.bool value)) (number : ∀ value, motive (.number value))
    (string : ∀ value, motive (.string value))
    (array : ∀ items, (∀ item ∈ items, motive item) → motive (.array items))
    (object : ∀ members, (∀ entry ∈ members, motive entry.2) → motive (.object members)) :
    motive json := by
  apply @Json.rec motive (fun items => ∀ item ∈ items, motive item)
    (fun members => ∀ entry ∈ members, motive entry.2) (fun entry => motive entry.2)
  · exact null
  · exact bool
  · exact number
  · exact string
  · exact array
  · exact object
  · simp
  · intro item items here later other member
    rcases List.mem_cons.mp member with rfl | inside
    · exact here
    · exact later other inside
  · simp
  · intro entry members here later other member
    rcases List.mem_cons.mp member with rfl | inside
    · exact here
    · exact later other inside
  · intro name value here
    exact here

/-- Member access by name; values that are not objects have no members. -/
def get? : Json → String → Option Json
  | .object members, name => (members.find? fun entry => entry.1 == name).map Prod.snd
  | _, _ => none

def asStr? : Json → Option String
  | .string value => some value
  | _ => none

inductive WellFormed : Json → Prop
  | null : WellFormed .null
  | bool (value : Bool) : WellFormed (.bool value)
  | number (value : Number) : WellFormed (.number value)
  | string (value : String) : WellFormed (.string value)
  | array {items : List Json} (each : ∀ item ∈ items, WellFormed item) : WellFormed (.array items)
  | object {members : List (String × Json)} (distinct : (members.map Prod.fst).Nodup)
      (each : ∀ entry ∈ members, WellFormed entry.2) : WellFormed (.object members)

/-- The same value up to the order of members, for a sameness of numbers. -/
inductive Same (sameNumber : Number → Number → Prop) : Json → Json → Prop
  | null : Same sameNumber .null .null
  | bool (value : Bool) : Same sameNumber (.bool value) (.bool value)
  | number {left right : Number} (same : sameNumber left right) :
      Same sameNumber (.number left) (.number right)
  | string (value : String) : Same sameNumber (.string value) (.string value)
  | array {left right : List Json} (each : List.Forall₂ (Same sameNumber) left right) :
      Same sameNumber (.array left) (.array right)
  | object {left right leftOrdered rightOrdered : List (String × Json)}
      (leftOrder : left.Perm leftOrdered)
      (names : leftOrdered.map Prod.fst = rightOrdered.map Prod.fst)
      (each : List.Forall₂ (Same sameNumber) (leftOrdered.map Prod.snd) (rightOrdered.map Prod.snd))
      (rightOrder : rightOrdered.Perm right) : Same sameNumber (.object left) (.object right)

def asObject? : Json → Option (List (String × Json))
  | .object members => some members
  | _ => none

end Json

end Roosty
