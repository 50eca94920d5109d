import Mathlib.Algebra.Group.Int.Defs
import Mathlib.Algebra.Group.Nat.Defs
import Mathlib.Order.OrderDual
import Roosty.Core
import Roosty.Library.Keyset
import Roosty.Library.Machine
import Roosty.Library.Result
import Roosty.Library.Table
import Roosty.Library.Text

/-!
# Instance rules

The rules that an instance advertises, in an order that moderators choose. A unique index
over the positions of active rules makes a new order take two rounds of updates.
-/

set_option autoImplicit false

namespace Roosty.Moderation

open Library

structure InstanceRule where
  id : Nat
  text : String
  position : Int
  createdAt : Int
  updatedAt : Int
  discardedAt : Option Int
deriving DecidableEq

def InstanceRule.isActive (rule : InstanceRule) : Bool :=
  rule.discardedAt.isNone

/-- `index as i32`. -/
def indexAsI32 (index : Nat) : Int :=
  (index : Int).bmod (2 ^ 32)

/-- `i32::saturating_add`. -/
def saturatingAdd (left right : Int) : Int :=
  max (-2 ^ 31) (min (left + right) (2 ^ 31 - 1))

/-- PostgreSQL has no text with a null character. -/
def storableText (text : String) : Bool :=
  !text.toList.contains '\x00'

/-- The constraints of `instance_rule` on a row beside the others. -/
def checkRule (others : List InstanceRule) (rule : InstanceRule) : Except RoostyError Unit := do
  ensure (storableText rule.text) (.database "invalid byte sequence for encoding")
  ensure (rule.text != "" && decide (rule.text.length ≤ 300)) (.database "instance_rule_text_valid")
  ensure (decide (0 ≤ rule.position)) (.database "instance_rule_position_valid")
  ensure (!(rule.isActive && others.any fun other =>
    other.isActive && other.position == rule.position)) (.database "instance_rule_active_position_idx")

def insertRule (rules : List InstanceRule) (rule : InstanceRule) :
    Except RoostyError (List InstanceRule) := do
  ensure (!rules.any fun other => other.id == rule.id) (.database "instance_rule_pkey")
  checkRule rules rule
  return rules ++ [rule]

/-- `UPDATE instance_rule ... WHERE id = ...`. -/
def updateRule (rules : List InstanceRule) (rule : InstanceRule) :
    Except RoostyError (List InstanceRule) := do
  checkRule (Table.deleteWhere (fun other => other.id == rule.id) rules) rule
  return Table.updateWhere (fun other => other.id == rule.id) (fun _ => rule) rules

def activeRules (rules : List InstanceRule) : List InstanceRule :=
  rules.filter InstanceRule.isActive

def listInstanceRules (rules : List InstanceRule) : List InstanceRule :=
  Keyset.arrange InstanceRule.position (activeRules rules)

def validateRuleText (text : String) : Except RoostyError Unit :=
  ensure (decide (0 < (Text.trim text).length) && decide ((Text.trim text).length ≤ 300))
    (.invalidInput "instance rule text must contain between 1 and 300 characters")

def nextPosition (rules : List InstanceRule) : Int :=
  let last := (Keyset.arrange (OrderDual.toDual ∘ InstanceRule.position) (activeRules rules)).head?
  last.elim 0 fun rule => saturatingAdd rule.position 1

def createInstanceRule (rules : List InstanceRule) (id : Nat) (now : Int) (text : String) :
    Except RoostyError (InstanceRule × List InstanceRule) := do
  validateRuleText text
  let rule : InstanceRule :=
    { id
      text := Text.trim text
      position := nextPosition rules
      createdAt := now
      updatedAt := now
      discardedAt := none }
  return (rule, ← insertRule rules rule)

def findActiveRule (rules : List InstanceRule) (id : Nat) : Option InstanceRule :=
  rules.find? fun rule => rule.id == id && rule.isActive

/-- Change an active rule's text while preserving its identity and order. -/
def updateInstanceRule (rules : List InstanceRule) (id : Nat) (now : Int) (text : String) :
    Except RoostyError (Option InstanceRule × List InstanceRule) := do
  validateRuleText text
  match findActiveRule rules id with
  | none => return (none, rules)
  | some model =>
      let rule := { model with text := Text.trim text, updatedAt := now }
      return (some rule, ← updateRule rules rule)

def discardInstanceRule (rules : List InstanceRule) (id : Nat) (now : Int) :
    Except RoostyError (Option InstanceRule × List InstanceRule) := do
  match findActiveRule rules id with
  | none => return (none, rules)
  | some model =>
      let rule := { model with discardedAt := some now, updatedAt := now }
      return (some rule, ← updateRule rules rule)

def placeRule (place : Nat → Int) (stamp : InstanceRule → Int) (rules : List InstanceRule)
    (entry : Nat × Nat) : Except RoostyError (List InstanceRule) := do
  let model ← okOr (rules.find? fun rule => rule.id == entry.1)
    (.invalidInput "instance rule was not found")
  updateRule rules { model with position := place entry.2, updatedAt := stamp model }

/-- One of the rounds that give every rule a position for its index. -/
def placeRules (place : Nat → Int) (stamp : InstanceRule → Int) (ids : List Nat)
    (rules : List InstanceRule) : Except RoostyError (List InstanceRule) :=
  ids.zipIdx.foldlM (placeRule place stamp) rules

def reorderInstanceRules (rules : List InstanceRule) (now : Int) (orderedIds : List Nat) :
    Except RoostyError (List InstanceRule × List InstanceRule) := do
  let expected := (listInstanceRules rules).map InstanceRule.id
  ensure (expected.mergeSort == orderedIds.mergeSort)
    (.invalidInput "rule order must contain every active rule exactly once")
  -- out of the way of the unique index first
  let rules ← placeRules (fun index => saturatingAdd 1000000 (indexAsI32 index))
    InstanceRule.updatedAt orderedIds rules
  let rules ← placeRules indexAsI32 (fun _ => now) orderedIds rules
  return (listInstanceRules rules, rules)

/-!
## Requests
-/

inductive RuleCall where
  | create (id : Nat) (now : Int) (text : String)
  | update (id : Nat) (now : Int) (text : String)
  | discard (id : Nat) (now : Int)
  | reorder (now : Int) (ids : List Nat)
  | up (now : Int) (id : Nat)
  | down (now : Int) (id : Nat)
deriving DecidableEq

def RuleCall.isCreate : RuleCall → Bool
  | .create .. => true
  | _ => false

inductive RuleFailure where
  | notFound
  | failed (error : RoostyError)
deriving DecidableEq

/-- `<[T]>::swap`. -/
def swap (ids : List Nat) (first second : Nat) : List Nat :=
  match ids[first]?, ids[second]? with
  | some one, some other => (ids.set first other).set second one
  | _, _ => ids

/-- The moves of `update_admin_instance_rule`. -/
def moveRule (rules : List InstanceRule) (now : Int) (id : Nat) (destination : Nat → Nat → Nat) :
    Except RuleFailure (List InstanceRule × List InstanceRule) := do
  let ids := (listInstanceRules rules).map InstanceRule.id
  let index ← okOr (ids.idxOf? id) .notFound
  let (_, rules) ← (reorderInstanceRules rules now
    (swap ids index (destination index ids.length))).mapError .failed
  return ([], rules)

/-- The rules that a request answers with, and the table that it commits. -/
def performRuleCall (rules : List InstanceRule) :
    RuleCall → Except RuleFailure (List InstanceRule × List InstanceRule)
  | .create id now text => do
      let (rule, rules) ← (createInstanceRule rules id now text).mapError .failed
      return ([rule], rules)
  | .update id now text => do
      let (rule, rules) ← (updateInstanceRule rules id now text).mapError .failed
      return ([← okOr rule .notFound], rules)
  | .discard id now => do
      let (rule, rules) ← (discardInstanceRule rules id now).mapError .failed
      return ([← okOr rule .notFound], rules)
  | .reorder now ids => (reorderInstanceRules rules now ids).mapError .failed
  | .up now id => moveRule rules now id fun index _ => index - 1
  | .down now id => moveRule rules now id fun index length => min (index + 1) (length - 1)

/-- Requests do not overlap. They hold a lock on the table until they commit or roll back, and
`update_admin_instance_rule` lists the rules of a move before `reorder_instance_rules` takes it. -/
def ruleMachine :
    Machine (List InstanceRule) RuleCall (Except RuleFailure (List InstanceRule)) where
  step rules call :=
    match performRuleCall rules call with
    | .ok (answer, stored) => (stored, .ok answer)
    | .error failure => (rules, .error failure)

end Roosty.Moderation
