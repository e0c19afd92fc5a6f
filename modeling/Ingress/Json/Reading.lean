import Ingress.Json.Token
import Ingress.Json.Basic

/-!
# A document as far as it can be read

Whether a document fits a type and whether it is well formed are asked together, in the order of the
text: the first of the two faults counts. So a text is read into a tree that may hold a fault as its
last leaf, and what wants a value from the tree finds the faults on its way.
-/

namespace Ingress.Json

/-- A tree of what a text says. Members keep the order of the text and may repeat. -/
inductive Reading
  | null
  | bool (value : Bool)
  | number (value : Number)
  | text (value : String)
  | list (items : List Reading)
  /-- A list that is written as one record after the other under the same name. -/
  | series (items : List Reading)
  /-- A name that is no text stands for a fault at its place. -/
  | record (members : List (Option String × Reading))
  /-- A value of a kind that no field of a document asks for. -/
  | foreign
  /-- A number past the largest one; fine for who does not want its value. -/
  | beyond
  /-- A string that is not Unicode; fine for who does not want its value. -/
  | garbled
  /-- Here the text stops being a document. -/
  | fault

namespace Reading

/-- A container that is still open, with what it holds so far in reverse. -/
inductive Frame
  | list (items : List Reading)
  | record (members : List (Option String × Reading)) (name : Option String)

/-- What may come next. -/
inductive Expected
  | value
  | firstItem
  | firstName
  | name
  | colon
  | separator

/-- Closes the open containers around a fault at the place where `expected` was due. -/
def abandon (expected : Expected) : List Frame → Reading
  | [] => .fault
  | frame :: outer => go outer (close frame)
where
  /-- The innermost container with the fault in it. -/
  close : Frame → Reading
    | .list items => .list (items.reverse ++ [.fault])
    | .record members name =>
      match expected with
      | .colon | .value => .record (members.reverse ++ [(name, .fault)])
      | _ => .record (members.reverse ++ [(none, .fault)])
  /-- The containers around it. -/
  go : List Frame → Reading → Reading
    | [], r => r
    | .list items :: outer, r => go outer (.list (items.reverse ++ [r]))
    | .record members name :: outer, r => go outer (.record (members.reverse ++ [(name, r)]))

/-- The value of a token that is one. -/
def ofToken? : Token → Option Reading
  | .null => some .null
  | .bool b => some (.bool b)
  | .number (some n) => some (.number n)
  | .number none => some .beyond
  | .text (some s) => some (.text s)
  | .text none => some .garbled
  | _ => none

mutual

/-- Reads on where a value, a name or a mark is due. The second result tells whether the text ends
after the value. -/
def build : List Frame → Expected → List Token → Reading × Bool
  | frames, expected, [] => (abandon expected frames, false)
  | frames, .value, t :: rest => buildValue frames .value t rest
  | frames, .firstItem, t :: rest =>
    match t, frames with
    | .closeList, .list items :: outer => place outer (.list items.reverse) rest
    | t, frames => buildValue frames .firstItem t rest
  | frames, .firstName, t :: rest =>
    match t, frames with
    | .closeRecord, .record members _ :: outer => place outer (.record members.reverse) rest
    | .text name, .record members _ :: outer => build (.record members name :: outer) .colon rest
    | _, frames => (abandon .firstName frames, false)
  | frames, .name, t :: rest =>
    match t, frames with
    | .text name, .record members _ :: outer => build (.record members name :: outer) .colon rest
    | _, frames => (abandon .name frames, false)
  | frames, .colon, t :: rest =>
    match t with
    | .colon => build frames .value rest
    | _ => (abandon .colon frames, false)
  | frames, .separator, t :: rest =>
    match t, frames with
    | .comma, .list items :: outer => build (.list items :: outer) .value rest
    | .comma, .record members name :: outer => build (.record members name :: outer) .name rest
    | .closeList, .list items :: outer => place outer (.list items.reverse) rest
    | .closeRecord, .record members _ :: outer => place outer (.record members.reverse) rest
    | _, frames => (abandon .separator frames, false)
termination_by _ _ tokens => (tokens.length, 1)

/-- Reads a value that begins with a given token. -/
def buildValue (frames : List Frame) (expected : Expected) (t : Token) (rest : List Token) :
    Reading × Bool :=
  match t with
  | .openList => build (.list [] :: frames) .firstItem rest
  | .openRecord => build (.record [] none :: frames) .firstName rest
  | t =>
    match ofToken? t with
    | some r => place frames r rest
    | none => (abandon expected frames, false)
termination_by (rest.length, 3)

/-- Puts a complete value into the innermost open container. -/
def place : List Frame → Reading → List Token → Reading × Bool
  | [], r, rest => (r, rest.isEmpty)
  | .list items :: outer, r, rest => build (.list (r :: items) :: outer) .separator rest
  | .record members name :: outer, r, rest =>
    build (.record ((name, r) :: members) name :: outer) .separator rest
termination_by _ _ rest => (rest.length, 2)

end

/-- Reads a whole text; the second result tells whether nothing follows the value. -/
def ofGlyphs (gs : List Text.Glyph) : Reading × Bool :=
  build [] .value (Token.all gs)

/-- The containers that may stand in one another. -/
def maxDepth : Nat := 127

mutual

/-- The value that the tree stands for, if it holds no fault and is at most `depth` deep. -/
def toJson? : Nat → Reading → Option Json
  | _, .null => some .null
  | _, .bool b => some (.bool b)
  | _, .number n => some (.number n)
  | _, .text s => some (.string s)
  | depth + 1, .list items => (itemsToJson? depth items).map .array
  | depth + 1, .series items => (itemsToJson? depth items).map .array
  | depth + 1, .record members =>
    (membersToJson? depth members).map fun ms => .object (Dictionary.ofPairs ms)
  | _, _ => none
termination_by structural _ r => r

/-- The values of the items of a list. -/
def itemsToJson? : Nat → List Reading → Option (List Json)
  | _, [] => some []
  | depth, r :: rest => do
    let j ← toJson? depth r
    let js ← itemsToJson? depth rest
    pure (j :: js)
termination_by structural _ rs => rs

/-- The values of the members of a record. -/
def membersToJson? : Nat → List (Option String × Reading) → Option (List (String × Json))
  | _, [] => some []
  | depth, (name, r) :: rest => do
    let k ← name
    let j ← toJson? depth r
    let ms ← membersToJson? depth rest
    pure ((k, j) :: ms)
termination_by structural _ rs => rs

end

mutual

/-- The tree is well formed, whatever its values are. -/
def isWellFormed : Reading → Bool
  | .list items => areWellFormed items
  | .series items => areWellFormed items
  | .record members => membersWellFormed members
  | .fault => false
  | _ => true
termination_by structural r => r

/-- All trees of a list are well formed. -/
def areWellFormed : List Reading → Bool
  | [] => true
  | r :: rest => isWellFormed r && areWellFormed rest
termination_by structural rs => rs

/-- All trees of the members are well formed. -/
def membersWellFormed : List (Option String × Reading) → Bool
  | [] => true
  | (_, r) :: rest => isWellFormed r && membersWellFormed rest
termination_by structural rs => rs

end

end Reading

/-- The value of a text, if the whole text is one value. -/
def ofGlyphs? (gs : List Text.Glyph) : Option Json :=
  let (r, clean) := Reading.ofGlyphs gs
  if clean then r.toJson? Reading.maxDepth else none

/-- The value of a text. -/
def ofText? (s : String) : Option Json := ofGlyphs? (Text.glyphs s)

/-- The value of the text that bytes hold. -/
def ofBytes? (b : ByteArray) : Option Json := ofGlyphs? (Text.glyphsOfBytes b)

end Ingress.Json
