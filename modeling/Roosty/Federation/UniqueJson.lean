import Roosty.Library.JsonReading
import Roosty.Library.Result

/-!
# Documents without duplicate properties

The inbox reads JSON with a visitor of its own, which refuses an object that repeats a name. It
accepts what the serializer library accepts otherwise, and builds the same value.
-/

set_option autoImplicit false

namespace Roosty.Federation.Integrity

open Library Json

mutual

def uniqueValue : Reading → Except String Json
  | .fails reason => .error reason
  | .unit => .ok .null
  | .bool value => .ok (.bool value)
  | .unsigned value => .ok (.number (.ofUnsigned value))
  | .signed value => .ok (.number (.ofSigned value))
  | .float bits => .ok (Json.ofFloat bits)
  | .string value => .ok (.string value)
  | .seq elements failure => visitSeq elements failure []
  | .map entries failure => visitMap entries failure [] []

def visitSeq : List Reading → Option String → (values : List Json) → Except String Json
  | [], some reason, _ => .error reason
  | [], none, values => .ok (.array values)
  | element :: elements, failure, values => do
      let value ← uniqueValue element
      visitSeq elements failure (values ++ [value])

def visitMap : List (String × Reading) → Option String → (keys : List String) →
    (values : List (String × Json)) → Except String Json
  | [], some reason, _, _ => .error reason
  | [], none, _, values => .ok (.object values)
  | (key, reading) :: entries, failure, keys, values =>
      if keys.contains key then .error ("duplicate JSON property `" ++ key ++ "`")
      else do
        let value ← uniqueValue reading
        visitMap entries failure (key :: keys) (insertMember key value values)

end

section

variable {failure : Option String} {value : Json}

end

end Roosty.Federation.Integrity
