import Ingress.Json.Mismatch

/-!
# Reading a document as a type

A decoder takes a value out of a tree or says why it cannot. A record is decoded in the order of the
text: a name that is unknown or repeated is refused where it stands, a value where it does not fit,
and only then are the missing fields looked for. A record may also be written as the list of its
fields in order.
-/

namespace Ingress.Json

/-- Takes a value out of a tree. -/
abbrev Decoder (α : Type) := Reading → Except Refusal α

namespace Reading

/-- What the tree holds, for a message. -/
def found : Decoder Found
  | .null => .ok .null
  | .bool b => .ok (.bool b)
  | .number (.int i) => .ok (.integer i)
  | .number (.float x) => .ok (.float x)
  | .text s => .ok (.text s)
  | .list _ | .series _ => .ok .list
  | .record _ => .ok .record
  | .foreign => .ok .record
  | .beyond | .garbled | .fault => .error .malformed

/-- Refuses the tree because its kind is not the expected one. -/
def refuse (expected : String) (r : Reading) : Except Refusal α := do
  let f ← r.found
  throw (.unfit (.kind f expected))

end Reading

namespace Decoder

/-- A text. -/
def text : Decoder String
  | .text s => .ok s
  | r => r.refuse "a string"

/-- A truth value. -/
def bool : Decoder Bool
  | .bool b => .ok b
  | r => r.refuse "a boolean"

/-- A whole number from `least` to `most`. -/
def integer (least most : Int) (expected : String) : Decoder Int
  | .number (.int i) =>
    if least ≤ i ∧ i ≤ most then .ok i else .error (.unfit (.value (.integer i) expected))
  | r => r.refuse expected

/-- An unsigned number that is smaller than `2 ^ bits`. -/
def unsigned (bits : Nat) (expected : String) : Decoder Nat := fun r => do
  let i ← integer 0 ((1 <<< bits : Nat) - 1) expected r
  pure i.toNat

/-- A number as floating point. -/
def float : Decoder Float
  | .number n => .ok n.toFloat
  | r => r.refuse "f64"

/-- A value or `null`. -/
def optional (item : Decoder α) : Decoder (Option α)
  | .null => .ok none
  | r => do
    let a ← item r
    pure (some a)

/-- The items of a list, in order. -/
def items (item : Decoder α) : List Reading → Except Refusal (List α)
  | [] => .ok []
  | r :: rest => do
    let a ← item r
    let more ← items item rest
    pure (a :: more)

/-- A list. -/
def list (item : Decoder α) : Decoder (List α)
  | .list rs | .series rs => items item rs
  | r => r.refuse "a sequence"

/-- Nothing is taken, but what stands there has to be well formed. -/
def skip : Decoder Unit := fun r => if r.isWellFormed then .ok () else .error .malformed

/-- Any value that is at most `depth` deep. -/
def anything (depth : Nat) : Decoder Json := fun r =>
  match r.toJson? depth with
  | some j => .ok j
  | none => .error .malformed

/-- The tree as it stands, if a decoder accepts it. -/
def fits (d : Decoder α) : Decoder Reading := fun r => do
  let _ ← d r
  pure r

/-- One of a list of names, for the value with that name. -/
def named (names : List (String × α)) (name : String) : Except Refusal α :=
  match names.find? (·.1 = name) with
  | some (_, a) => .ok a
  | none => .error (.unfit (.unknownVariant name (names.map (·.1))))

/-- A choice by name, written as the name or as a record of that one name with `null`. Anything else
is no value at all. -/
def choice (names : List (String × α)) : Decoder α
  | .text s => named names s
  | .record ((some name, r) :: rest) => do
    let a ← named names name
    match r with
    | .null => if rest.isEmpty then .ok a else .error .malformed
    | r => r.refuse "unit"
  | _ => .error .malformed

end Decoder

/-- What items beyond the last field of a record written as a list mean. -/
inductive Surplus
  /-- The list is not closed where it has to be. -/
  | malformed
  /-- The list has the wrong length. -/
  | miscounted
  /-- Nothing. -/
  | ignored

/-- A field of a record. -/
structure FieldShape (β : Type) where
  name : String
  /-- What is taken from a value that fits the field. -/
  take : Decoder β
  /-- Whether a list may end before the field. -/
  defaulted : Bool

/-- What a record looks like. -/
structure Shape (β : Type) where
  title : String
  fields : List (FieldShape β)
  /-- Whether names other than those of the fields are refused. -/
  strict : Bool
  surplus : Surplus

namespace Shape

/-- The title with the number of fields. -/
def sized (s : Shape β) : String :=
  s.title ++ " with " ++ toString s.fields.length
    ++ (if s.fields.length = 1 then " element" else " elements")

/-- Looks through members in the order of the text; `seen` holds the fields met so far. -/
def members (s : Shape β) (seen : List (String × β)) :
    List (Option String × Reading) → Except Refusal (List (String × β))
  | [] => .ok seen
  | (none, _) :: _ => .error .malformed
  | (some name, r) :: rest =>
    match s.fields.find? (·.name = name) with
    | some f =>
      if seen.any (·.1 = name) then .error (.unfit (.repeated name))
      else do
        let b ← f.take r
        members s ((name, b) :: seen) rest
    | none =>
      if s.strict then .error (.unfit (.unknownField name (s.fields.map (·.name))))
      else do
        Decoder.skip r
        members s seen rest

/-- Pairs the items of a list with the fields; `count` of them are done. -/
def positions (s : Shape β) (count : Nat) :
    List (FieldShape β) → List Reading → Except Refusal (List (String × β))
  | [], [] => .ok []
  | [], more =>
    match s.surplus with
    | .malformed => .error .malformed
    | .ignored => .ok []
    | .miscounted =>
      .error (.unfit (.length (count + more.length) (toString count
        ++ (if count = 1 then " element in sequence" else " elements in sequence"))))
  | f :: fs, [] =>
    if f.defaulted then positions s (count + 1) fs []
    else .error (.unfit (.length count s.sized))
  | f :: fs, r :: rest => do
    let b ← f.take r
    let more ← positions s (count + 1) fs rest
    pure ((f.name, b) :: more)

/-- The name under which a foreign value stands as the only member of a record. -/
def foreignName : String := "$__toml_private_datetime"

/-- The fields that a record has, each with a value that fits. -/
def decode (s : Shape β) : Decoder (List (String × β))
  | .record ms => members s [] ms
  | .foreign => members s [] [(some foreignName, .foreign)]
  | .list rs | .series rs => positions s 0 s.fields rs
  | r => r.refuse s.title

end Shape

/-- The value of a field among those found, if it is there. -/
def member? (d : Decoder α) (name : String) (found : List (String × Reading)) :
    Except Refusal (Option α) :=
  match found.find? (·.1 = name) with
  | some (_, r) => do
    let a ← d r
    pure (some a)
  | none => .ok none

/-- The value of a field that has to be there. -/
def member (d : Decoder α) (name : String) (found : List (String × Reading)) :
    Except Refusal α := do
  match ← member? d name found with
  | some a => pure a
  | none => throw (.unfit (.missing name))

/-- The value of a field, or another value where it is missing. -/
def memberD (d : Decoder α) (name : String) (missing : α) (found : List (String × Reading)) :
    Except Refusal α := do
  pure ((← member? d name found).getD missing)

/-- Reads a whole text as one value of a type. -/
def decodeGlyphs (d : Decoder α) (gs : List Text.Glyph) : Except Refusal α := do
  let (r, clean) := Reading.ofGlyphs gs
  let a ← d r
  if clean then pure a else throw .malformed

/-- Reads a text as one value of a type. -/
def decodeText (d : Decoder α) (s : String) : Except Refusal α := decodeGlyphs d (Text.glyphs s)

/-- Reads the text that bytes hold as one value of a type. -/
def decodeBytes (d : Decoder α) (b : ByteArray) : Except Refusal α :=
  decodeGlyphs d (Text.glyphsOfBytes b)

end Ingress.Json
