import Ingress.Schema.Properties
import Ingress.Schema.Violation
import Ingress.Decimal.Layout

/-!
# Schemas

The shape that a request body has to have. Checking a body collects every departure: first those of
a value itself, then those of its items or declared properties in order. A check carries one path
along, which grows on the way into a part and shrinks again on the way out.
-/

namespace Ingress

/-- The shape of an acceptable value. The properties of an object have names of their own and stand in
the order of their declaration. -/
inductive Schema
  | string (required : Bool) (minLength maxLength : Option Nat)
  | integer (required : Bool) (minimum maximum : Option Int)
  | number (required : Bool) (minimum maximum : Option Float)
  | boolean (required : Bool)
  | array (required : Bool) (items : Schema) (minItems : Option Nat)
  | object (required : Bool) (properties : Properties Schema)

namespace Schema

/-- Whether the absence of the value is a departure, and `null` is refused. -/
def isRequired : Schema → Bool
  | .string required _ _ | .integer required _ _ | .number required _ _ | .boolean required
  | .array required _ _ | .object required _ => required

/-- The schema with its value required. -/
def required : Schema → Schema
  | .string _ a b => .string true a b
  | .integer _ a b => .integer true a b
  | .number _ a b => .number true a b
  | .boolean _ => .boolean true
  | .array _ items n => .array true items n
  | .object _ ps => .object true ps

/-- Bounds the length of a string from below; nothing changes elsewhere. -/
def minLength (n : Nat) : Schema → Schema
  | .string r _ b => .string r (some n) b
  | s => s

/-- Bounds the length of a string from above; nothing changes elsewhere. -/
def maxLength (n : Nat) : Schema → Schema
  | .string r a _ => .string r a (some n)
  | s => s

/-- Bounds a number from below; nothing changes elsewhere. -/
def minimum (n : Int) : Schema → Schema
  | .integer r _ b => .integer r (some n) b
  | .number r _ b => .number r (some (Float.ofInt n)) b
  | s => s

/-- Bounds a number from above; nothing changes elsewhere. -/
def maximum (n : Int) : Schema → Schema
  | .integer r a _ => .integer r a (some n)
  | .number r a _ => .number r a (some (Float.ofInt n))
  | s => s

/-- Bounds the number of items from below; nothing changes elsewhere. -/
def minItems (n : Nat) : Schema → Schema
  | .array r items _ => .array r items (some n)
  | s => s

/-- An object with declared properties. -/
def ofProperties (properties : List (String × Schema)) : Schema :=
  .object false (.ofPairs properties)

/-- Why a value departs from its schema. -/
inductive Reason
  | required
  | mismatch (expected : String) (value : Json)
  | fraction
  | tooShort (least : Nat)
  | tooLong (most : Nat)
  | belowInteger (least : Int)
  | aboveInteger (most : Int)
  | belowNumber (least : Float)
  | aboveNumber (most : Float)
  | tooFew (least : Nat)

/-- The name of a value's type. -/
def typeName : Json → String
  | .null => "null"
  | .bool _ => "boolean"
  | .number _ => "number"
  | .string _ => "string"
  | .array _ => "array"
  | .object _ => "object"

/-- The sentence for a reason. -/
def Reason.message : Reason → String
  | .required => "Required"
  | .mismatch expected value => "Expected " ++ expected ++ ", received " ++ typeName value
  | .fraction => "Expected integer, received float"
  | .tooShort n => "String must contain at least " ++ toString n ++ " character(s)"
  | .tooLong n => "String must contain at most " ++ toString n ++ " character(s)"
  | .belowInteger n => "Number must be greater than or equal to " ++ toString n
  | .aboveInteger n => "Number must be less than or equal to " ++ toString n
  | .belowNumber x => "Number must be greater than or equal to " ++ Decimal.Layout.plain.write x
  | .aboveNumber x => "Number must be less than or equal to " ++ Decimal.Layout.plain.write x
  | .tooFew n => "Array must contain at least " ++ toString n ++ " element(s)"

namespace Reason

@[simp] theorem message_required : required.message = "Required" := rfl

@[simp] theorem message_mismatch (expected : String) (value : Json) :
    (mismatch expected value).message =
      "Expected " ++ expected ++ ", received " ++ typeName value := rfl

@[simp] theorem message_fraction : fraction.message = "Expected integer, received float" := rfl

@[simp] theorem message_tooShort (n : Nat) :
    (tooShort n).message = "String must contain at least " ++ toString n ++ " character(s)" := rfl

@[simp] theorem message_tooLong (n : Nat) :
    (tooLong n).message = "String must contain at most " ++ toString n ++ " character(s)" := rfl

@[simp] theorem message_belowInteger (n : Int) :
    (belowInteger n).message = "Number must be greater than or equal to " ++ toString n := rfl

@[simp] theorem message_aboveInteger (n : Int) :
    (aboveInteger n).message = "Number must be less than or equal to " ++ toString n := rfl

@[simp] theorem message_belowNumber (x : Float) :
    (belowNumber x).message =
      "Number must be greater than or equal to " ++ Decimal.Layout.plain.write x := rfl

@[simp] theorem message_aboveNumber (x : Float) :
    (aboveNumber x).message =
      "Number must be less than or equal to " ++ Decimal.Layout.plain.write x := rfl

@[simp] theorem message_tooFew (n : Nat) :
    (tooFew n).message = "Array must contain at least " ++ toString n ++ " element(s)" := rfl

end Reason

/-- A reason if a bound is there and broken. -/
def broken (bound : Option α) (breaks : α → Bool) (reason : α → Reason) : List Reason :=
  match bound with
  | some b => if breaks b then [reason b] else []
  | none => []

/-- The departures of a value itself, those of its items and properties aside. -/
def reasons : Schema → Json → List Reason
  | .string _ least most, .string s =>
    broken least (s.length < ·) .tooShort ++ broken most (· < s.length) .tooLong
  | .string .., v => [.mismatch "string" v]
  | .integer _ least most, .number n =>
    match n.toSigned? with
    | some i => broken least (i < ·) .belowInteger ++ broken most (· < i) .aboveInteger
    | none => [.fraction]
  | .integer .., v => [.mismatch "integer" v]
  | .number _ least most, .number n =>
    broken least (n.toFloat < ·) .belowNumber ++ broken most (· < n.toFloat) .aboveNumber
  | .number .., v => [.mismatch "number" v]
  | .boolean _, .bool _ => []
  | .boolean _, v => [.mismatch "boolean" v]
  | .array _ _ least, .array items => broken least (items.length < ·) .tooFew
  | .array .., v => [.mismatch "array" v]
  | .object .., .object _ => []
  | .object .., v => [.mismatch "object" v]

/-- The place that a check has reached, and the departures found on the way there. -/
structure Search where
  path : List Segment
  found : List Violation

namespace Search

/-- Goes on to a part of the value. -/
def enter (step : Segment) (search : Search) : Search :=
  { search with path := search.path ++ [step] }

/-- Goes back to the value that the part is of. -/
def leave (search : Search) : Search := { search with path := search.path.dropLast }

/-- Adds a departure of the value that has been reached. -/
def reject (search : Search) (r : Reason) : Search :=
  { search with found := search.found ++ [⟨search.path, r.message⟩] }

end Search

mutual

/-- Adds the departures of the value that has been reached to those found before. -/
def check (s : Schema) (value : Json) (search : Search) : Search :=
  match value.isNull && !s.isRequired with
  | true => search
  | false =>
    let search := (reasons s value).foldl Search.reject search
    match s, value with
    | .array _ items _, .array values =>
      values.zipIdx.foldl
        (fun search v => (check items v.1 (search.enter (.index v.2))).leave) search
    | .object _ properties, .object members => checkProperties properties.fields members search
    | _, _ => search
termination_by structural s

/-- Adds the departures of declared properties to those found before. -/
def checkProperties {names : List String} (properties : Fields Schema names)
    (members : Dictionary Json) (search : Search) : Search :=
  match properties with
  | .nil => search
  | .cons name s _ rest =>
    let search := search.enter (.key name)
    let search := match members.get? name with
      | some value => check s value search
      | none => if s.isRequired then search.reject .required else search
    checkProperties rest members search.leave
termination_by structural properties

end

/-- All departures of a value. -/
def violations (s : Schema) (value : Json) : List Violation := (check s value ⟨[], []⟩).found

mutual

/-- The schema as JSON. -/
def toJson : Schema → Json
  | .string r a b =>
    .object [("type", .string "string"), ("required", .bool r), ("min_length", .ofOption .ofNat a),
      ("max_length", .ofOption .ofNat b)]
  | .integer r a b =>
    .object [("type", .string "integer"), ("required", .bool r),
      ("minimum", .ofOption (fun i => .number (.int i)) a),
      ("maximum", .ofOption (fun i => .number (.int i)) b)]
  | .number r a b =>
    .object [("type", .string "number"), ("required", .bool r),
      ("minimum", .ofOption (fun x => .number (.float x)) a),
      ("maximum", .ofOption (fun x => .number (.float x)) b)]
  | .boolean r => .object [("type", .string "boolean"), ("required", .bool r)]
  | .array r items n =>
    .object [("type", .string "array"), ("required", .bool r), ("items", toJson items),
      ("min_items", .ofOption .ofNat n)]
  | .object r ps =>
    .object [("type", .string "object"), ("required", .bool r),
      ("properties", .object (propertiesToJson ps.fields))]
termination_by structural s => s

/-- Declared properties as members. -/
def propertiesToJson {names : List String} (properties : Fields Schema names) :
    List (String × Json) :=
  match properties with
  | .nil => []
  | .cons name s _ rest => (name, toJson s) :: propertiesToJson rest
termination_by structural properties

end

end Schema

end Ingress
