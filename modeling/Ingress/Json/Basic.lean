import Ingress.Json.Number
import Ingress.Dictionary

/-!
# JSON values

An object is a dictionary: its members stand in the order of their names, each name once.
-/

namespace Ingress

/-- A JSON value. -/
inductive Json
  | null
  | bool (value : Bool)
  | number (value : Json.Number)
  | string (value : String)
  | array (items : List Json)
  | object (members : List (String × Json))

namespace Json

/-- The member of an object, if the value is one and has it. -/
def get? (name : String) : Json → Option Json
  | .object members => Dictionary.get? name members
  | _ => none

/-- Whether the value is `null`. -/
def isNull : Json → Bool
  | .null => true
  | _ => false

/-- A whole number as a value. -/
def ofNat (n : Nat) : Json := .number (.int n)

/-- `null` for a missing value. -/
def ofOption (encode : α → Json) : Option α → Json
  | some a => encode a
  | none => .null

end Json

end Ingress
