import Roosty.Library.JsonObject
import Roosty.Library.Result

/-! Reading JSON documents. The tokeniser of the serializer library delivers a document to a
visitor piece by piece, with names and strings free of their escapes, until the document ends or
is found wrong. The library's own visitor builds a value, in which the last member of a name
stands. -/

set_option autoImplicit false

namespace Roosty.Json

open Library

/-- What is delivered of a value. Arrays and objects end, or fail behind some of their elements. -/
inductive Reading where
  | fails (reason : String)
  | unit
  | bool (value : Bool)
  | unsigned (value : UInt64)
  | signed (value : Int64)
  | float (bits : BitVec 64)
  | string (value : String)
  | seq (elements : List Reading) (failure : Option String)
  | map (entries : List (String × Reading)) (failure : Option String)

/-- The value of a document, and the failure of what follows it. -/
structure Document where
  reading : Reading
  trailing : Option String

namespace Reading

/-- Induction with a hypothesis for every element of a sequence and every value of a map. -/
@[elab_as_elim]
theorem inductOn {motive : Reading → Prop} (reading : Reading)
    (fails : ∀ reason, motive (.fails reason)) (unit : motive .unit)
    (bool : ∀ value, motive (.bool value)) (unsigned : ∀ value, motive (.unsigned value))
    (signed : ∀ value, motive (.signed value)) (float : ∀ bits, motive (.float bits))
    (string : ∀ value, motive (.string value))
    (seq : ∀ elements failure, (∀ element ∈ elements, motive element) →
      motive (.seq elements failure))
    (map : ∀ entries failure, (∀ entry ∈ entries, motive entry.2) →
      motive (.map entries failure)) : motive reading := by
  apply @Reading.rec motive (fun elements => ∀ element ∈ elements, motive element)
    (fun entries => ∀ entry ∈ entries, motive entry.2) (fun entry => motive entry.2)
  · exact fails
  · exact unit
  · exact bool
  · exact unsigned
  · exact signed
  · exact float
  · exact string
  · exact seq
  · exact map
  · simp
  · intro element elements here later other member
    rcases List.mem_cons.mp member with rfl | inside
    · exact here
    · exact later other inside
  · simp
  · intro entry entries here later other member
    rcases List.mem_cons.mp member with rfl | inside
    · exact here
    · exact later other inside
  · intro name reading here
    exact here

inductive Within : Reading → Reading → Prop
  | self (reading : Reading) : Within reading reading
  | element {inner element : Reading} {elements : List Reading} {failure : Option String}
      (member : element ∈ elements) (within : Within inner element) :
      Within inner (.seq elements failure)
  | entry {inner : Reading} {entry : String × Reading} {entries : List (String × Reading)}
      {failure : Option String} (member : entry ∈ entries) (within : Within inner entry.2) :
      Within inner (.map entries failure)

section

variable {elements : List Reading} {entries : List (String × Reading)} {failure : Option String}

end

end Reading

/-!
## Values
-/

/-- `Number::from`, of an unsigned and of a signed integer. -/
def Number.ofUnsigned (value : UInt64) : Number := .posInt value.toNat

def Number.ofSigned (value : Int64) : Number :=
  if value.toInt < 0 then .negInt value.toInt else .posInt value.toInt.toNat

/-- `Number::from_f64`: infinities and what is not a number are none. -/
def Number.ofFloat (bits : BitVec 64) : Option Number :=
  if (bits >>> 52) &&& 0x7ff#64 = 0x7ff#64 then none else some (.float bits)

/-- `Value::from(f64)`. -/
def ofFloat (bits : BitVec 64) : Json :=
  match Number.ofFloat bits with
  | none => .null
  | some finite => .number finite

mutual

/-- `Value::deserialize`. -/
def Reading.toValue : Reading → Except String Json
  | .fails reason => .error reason
  | .unit => .ok .null
  | .bool value => .ok (.bool value)
  | .unsigned value => .ok (.number (.ofUnsigned value))
  | .signed value => .ok (.number (.ofSigned value))
  | .float bits => .ok (Json.ofFloat bits)
  | .string value => .ok (.string value)
  | .seq elements failure => collectItems elements failure []
  | .map entries failure => collectMembers entries failure []

def collectItems : List Reading → Option String → List Json → Except String Json
  | [], some reason, _ => .error reason
  | [], none, items => .ok (.array items)
  | element :: elements, failure, items => do
      let item ← element.toValue
      collectItems elements failure (items ++ [item])

def collectMembers :
    List (String × Reading) → Option String → List (String × Json) → Except String Json
  | [], some reason, _ => .error reason
  | [], none, members => .ok (.object members)
  | (name, reading) :: entries, failure, members => do
      let value ← reading.toValue
      collectMembers entries failure (insertMember name value members)

end

/-- A value read from a document is kept when nothing but blanks follows it. -/
def Document.finish (document : Document) (value : Json) : Except String Json :=
  match document.trailing with
  | some reason => .error reason
  | none => .ok value

/-- `serde_json::from_slice`. -/
def fromSlice (tokenise : List UInt8 → Document) (bytes : List UInt8) : Except String Json := do
  let document := tokenise bytes
  let value ← document.reading.toValue
  document.finish value

end Roosty.Json
