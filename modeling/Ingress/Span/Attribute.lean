import Ingress.Decimal.Layout

/-!
# Span attributes

The scalar values that a span or one of its events carries under a name.
-/

namespace Ingress.Span

/-- A scalar. Integers have 64 bits and a sign. -/
inductive Attribute
  | text (value : String)
  | int (value : Int)
  | float (value : Float)
  | bool (value : Bool)

namespace Attribute

/-- The largest integer of an attribute. -/
def maxInt : Nat := 0x7fffffffffffffff

/-- An unsigned number; one that is too large becomes the largest integer. -/
def ofNat (n : Nat) : Attribute := .int (min n maxInt)

/-- The attribute in words. -/
def display : Attribute → String
  | .text s => s
  | .int i => toString i
  | .float x => Decimal.Layout.plain.write x
  | .bool b => if b then "true" else "false"

end Attribute

end Ingress.Span
