import Ingress.Json.Decoder

/-!
# Violations

Where a body departs from what is wanted, and why. A path leads from the body to the place.
-/

namespace Ingress

/-- One step of a path into a value. -/
inductive Segment
  | key (name : String)
  | index (position : Nat)
deriving DecidableEq

namespace Segment

/-- The step in words. -/
def display : Segment → String
  | .key name => name
  | .index n => toString n

/-- The step as JSON. -/
def toJson : Segment → Json
  | .key name => .string name
  | .index n => .ofNat n

/-- The sentence for a value that is no step. -/
def mismatch : String := "data did not match any variant of untagged enum PathSegment"

/-- Reads a step: any text or any unsigned number. Steps stand three containers deep. -/
def decode : Json.Decoder Segment := fun r => do
  match ← Json.Decoder.anything (Json.Reading.maxDepth - 3) r with
  | .string s => pure (.key s)
  | .number (.int i) => if 0 ≤ i then pure (.index i.toNat) else throw (.unfit (.other mismatch))
  | _ => throw (.unfit (.other mismatch))

end Segment

/-- One departure. -/
structure Violation where
  path : List Segment
  reason : String
deriving DecidableEq

namespace Violation

/-- The dotted form of a path. -/
def dotted (path : List Segment) : String := Text.joined "." (path.map Segment.display)

/-- The dotted path of the violation. -/
def field (v : Violation) : String := dotted v.path

/-- The violation in words. -/
def display (v : Violation) : String := v.field ++ ": " ++ v.reason

/-- The violation as JSON. -/
def toJson (v : Violation) : Json :=
  .object [("path", .array (v.path.map Segment.toJson)), ("reason", .string v.reason)]

open Json Json.Decoder in
/-- The fields of a written violation. -/
def shape : Shape Reading where
  title := "struct FieldViolation"
  fields := [⟨"path", fits (list Segment.decode), false⟩, ⟨"reason", fits text, false⟩]
  strict := false
  surplus := .malformed

open Json Json.Decoder in
/-- Reads a written violation. -/
def decode : Decoder Violation := fun r => do
  let fs ← shape.decode r
  let path ← member (list Segment.decode) "path" fs
  let reason ← member text "reason" fs
  pure ⟨path, reason⟩

end Violation

end Ingress
