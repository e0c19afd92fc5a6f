import Ingress.Schema.Basic

/-!
# Written schemas

A schema is a record with its kind under `type`, or a list that begins with the kind. The kind is
looked at where it stands; the other fields are kept until the whole record is read, and may then be
of any order.
-/

namespace Ingress.Schema

open Json

/-- The kinds of schema. -/
inductive Kind
  | string
  | integer
  | number
  | boolean
  | array
  | object
deriving DecidableEq

namespace Kind

/-- The kinds by name. -/
def names : List (String × Kind) :=
  [("string", string), ("integer", integer), ("number", number), ("boolean", boolean),
    ("array", array), ("object", object)]

/-- The title of a record of each kind. -/
def title : Kind → String
  | string => "struct variant Schema::String"
  | integer => "struct variant Schema::Integer"
  | number => "struct variant Schema::Number"
  | boolean => "struct variant Schema::Boolean"
  | array => "struct variant Schema::Array"
  | object => "struct variant Schema::Object"

/-- Reads a kind by its name; inside another schema, by its number too. -/
def decode (inner : Bool) : Decoder Kind
  | .text s => Decoder.named names s
  | .number (.int i) =>
    if inner ∧ 0 ≤ i then
      match names[i.toNat]? with
      | some (_, k) => .ok k
      | none => .error (.unfit (.value (.integer i)
          ("variant index 0 <= i < " ++ toString names.length)))
    else (Reading.number (.int i)).refuse "variant identifier"
  | r => r.refuse "variant identifier"

end Kind

/-- Parts the kind of a record from its other members, which are at most `depth` deep. -/
def splitKind (inner : Bool) (depth : Nat) (kind : Option Kind)
    (others : List (Option String × Reading)) :
    List (Option String × Reading) → Except Refusal (Kind × List (Option String × Reading))
  | [] =>
    match kind with
    | some k => .ok (k, others.reverse)
    | none => .error (.unfit (.missing "type"))
  | (none, _) :: _ => .error .malformed
  | (some name, r) :: rest =>
    if name = "type" then
      match kind with
      | some _ => .error (.unfit (.repeated "type"))
      | none => do
        let k ← Kind.decode inner r
        splitKind inner depth (some k) others rest
    else do
      let _ ← Decoder.anything depth r
      splitKind inner depth kind ((some name, r) :: others) rest

/-- The kind and the other fields of a schema. -/
def split (inner : Bool) (depth : Nat) : Decoder (Kind × Reading)
  | .record ms => do
    let (k, others) ← splitKind inner depth none [] ms
    pure (k, .record others)
  | .list [] => .error (.unfit (.missing "type"))
  | .list (r :: rest) => do
    let k ← Kind.decode inner r
    let _ ← Decoder.items (Decoder.fits (Decoder.anything depth)) rest
    pure (k, .list rest)
  | r => r.refuse "internally tagged enum Schema"

/-- Reads declared properties; one of the same name keeps its position and takes the later schema.
-/
def properties (d : Decoder Schema) : Decoder (Properties Schema)
  | .record ms =>
    ms.foldlM (fun ps m =>
      match m with
      | (some name, r) => do
        let s ← d r
        pure (ps.declare name s)
      | (none, _) => throw .malformed) .empty
  | r => r.refuse "a map"

/-- A length or a count. -/
def size : Decoder (Option Nat) := Decoder.optional (Decoder.unsigned 64 "usize")

/-- A bound of an integer. -/
def integerBound : Decoder (Option Int) :=
  Decoder.optional (Decoder.integer (-0x8000000000000000) 0x7fffffffffffffff "i64")

/-- A bound of a number. -/
def numberBound : Decoder (Option Float) := Decoder.optional Decoder.float

/-- What a field of a schema holds. -/
inductive Part
  | required (required : Bool)
  | size (bound : Option Nat)
  | integer (bound : Option Int)
  | number (bound : Option Float)
  | items (schema : Schema)
  | properties (properties : Properties Schema)

/-- A field that is `null` where it has no bound. -/
def bound (name : String) (d : Decoder (Option α)) (part : Option α → Part) : FieldShape Part :=
  ⟨name, fun r => part <$> d r, false⟩

/-- The fields of a record of each kind; `d` reads the schemas in it. -/
def fields (d : Decoder Schema) (k : Kind) : List (FieldShape Part) :=
  ⟨"required", fun r => .required <$> Decoder.bool r, true⟩ ::
    match k with
    | .string => [bound "min_length" size .size, bound "max_length" size .size]
    | .integer => [bound "minimum" integerBound .integer, bound "maximum" integerBound .integer]
    | .number => [bound "minimum" numberBound .number, bound "maximum" numberBound .number]
    | .boolean => []
    | .array => [⟨"items", fun r => .items <$> d r, false⟩, bound "min_items" size .size]
    | .object => [⟨"properties", fun r => .properties <$> properties d r, false⟩]

/-- The part of a name, if a record has it. -/
def part? (take : Part → Option α) (name : String) (found : List (String × Part)) : Option α :=
  (found.find? (·.1 = name)).bind fun p => take p.2

/-- Whether the value is required; it is not unless the record says so. -/
def requiredOf (found : List (String × Part)) : Bool :=
  (part? (fun | .required b => some b | _ => none) "required" found).getD false

/-- A bound of a length or a count. -/
def sizeOf? : String → List (String × Part) → Option Nat :=
  part? fun | .size n => n | _ => none

/-- A bound of an integer. -/
def integerOf? : String → List (String × Part) → Option Int :=
  part? fun | .integer n => n | _ => none

/-- A bound of a number. -/
def numberOf? : String → List (String × Part) → Option Float :=
  part? fun | .number x => x | _ => none

/-- The schema of a kind from its fields. -/
def assemble (k : Kind) (found : List (String × Part)) : Except Refusal Schema :=
  let required := requiredOf found
  match k with
  | .string => .ok (.string required (sizeOf? "min_length" found) (sizeOf? "max_length" found))
  | .integer => .ok (.integer required (integerOf? "minimum" found) (integerOf? "maximum" found))
  | .number => .ok (.number required (numberOf? "minimum" found) (numberOf? "maximum" found))
  | .boolean => .ok (.boolean required)
  | .array =>
    match part? (fun | .items s => some s | _ => none) "items" found with
    | some items => .ok (.array required items (sizeOf? "min_items" found))
    | none => .error (.unfit (.missing "items"))
  | .object =>
    match part? (fun | .properties ps => some ps | _ => none) "properties" found with
    | some ps => .ok (.object required ps)
    | none => .error (.unfit (.missing "properties"))

/-- Reads a schema that is at most `depth` deep. -/
def decodeWithin (inner : Bool) : Nat → Decoder Schema
  | 0 => fun _ => .error .malformed
  | depth + 1 => fun r => do
    let d := decodeWithin true depth
    let (k, rest) ← split inner depth r
    let shape : Shape Part := ⟨k.title, fields d k, false, .miscounted⟩
    let found ← shape.decode rest
    assemble k found

/-- Reads a written schema. -/
def decode : Decoder Schema := decodeWithin false Reading.maxDepth

end Ingress.Schema
