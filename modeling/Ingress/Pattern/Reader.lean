import Ingress.Pattern.Bracket
import Ingress.Text.WordTable

/-!
# Reading patterns

A pattern is read from left to right. The groups that are open are kept in a stack, each with what
was read around it. A pattern that is nested too deeply is none.
-/

namespace Ingress.Pattern

/-- Something that stands in a sequence. -/
structure Part where
  expr : Expr
  depth : Nat
  /-- Whether it can be repeated: flags cannot. -/
  repeatable : Bool

/-- What has been read of a group: branches that are complete, and the parts of the next one, each
in reverse. -/
structure Draft where
  branches : List Part
  parts : List Part

namespace Draft

/-- A group of which nothing has been read. -/
def empty : Draft := ⟨[], []⟩

/-- The group with one more part. -/
def add (d : Draft) (p : Part) : Draft := { d with parts := p :: d.parts }

/-- The depth of a number of things: several lie one deeper than one. -/
def depthOf (ps : List Part) : Nat :=
  let deepest := ps.foldl (fun n p => max n p.depth) 0
  if ps.length ≤ 1 then deepest else deepest + 1

/-- The parts of the last branch as one. -/
def branch (d : Draft) : Part :=
  ⟨Expr.ofParts (d.parts.reverse.flatMap fun p => p.expr.parts), depthOf d.parts, true⟩

/-- The group with its last branch complete. -/
def next (d : Draft) : Draft := ⟨d.branch :: d.branches, []⟩

/-- The group as one part. -/
def whole (d : Draft) : Part :=
  match d.branches with
  | [] => d.branch
  | bs =>
    let bs := d.branch :: bs
    ⟨Expr.alternatives (bs.reverse.map (·.expr)), depthOf bs, true⟩

end Draft

/-- A group that is open: its number if it has one, and what was there when it was opened. -/
structure Group where
  number : Option Nat
  outer : Draft
  flags : Flags

/-- How far a pattern has been read. -/
structure Reader where
  flags : Flags
  draft : Draft
  groups : List Group
  /-- The number of groups with a number. -/
  numbered : Nat
  /-- The names of groups. -/
  names : List String

namespace Reader

/-- The start of a pattern. -/
def initial : Reader := ⟨Flags.initial, Draft.empty, [], 0, []⟩

/-- The deepest nesting of a pattern. -/
def maxDepth : Nat := 250

/-- Reads on behind one more part. -/
def put (r : Reader) (e : Expr) : Reader := { r with draft := r.draft.add ⟨e, 0, true⟩ }

/-- Reads on within a group. -/
def enter (r : Reader) (number : Option Nat) (flags : Flags) : Reader :=
  { r with flags, draft := Draft.empty, groups := ⟨number, r.draft, r.flags⟩ :: r.groups }

/-- Reads on within a group that gets a number. -/
def enterNumbered (r : Reader) : Reader :=
  { r.enter (some (r.numbered + 1)) r.flags with numbered := r.numbered + 1 }

/-- Whether a character can stand in the name of a group. -/
def isNameCharacter (first : Bool) (c : Char) : Bool :=
  if first then c = '_' || Text.isLetter c
  else c = '_' || c = '.' || c = '[' || c = ']' || Text.isLetterOrDigit c

/-- Reads the name of a group, which no other one has, and the bracket behind it. -/
def readName (r : Reader) (cs : List Char) : Option (Reader × List Char) :=
  let name := cs.takeWhile (· ≠ '>')
  match name, cs.dropWhile (· ≠ '>') with
  | first :: more, _ :: rest =>
    let text := String.ofList name
    if isNameCharacter true first && more.all (isNameCharacter false) && !r.names.contains text then
      some ({ r.enterNumbered with names := text :: r.names }, rest)
    else none
  | _, _ => none

/-- Reads what stands behind a parenthesis. Conditions on what is around are not among the
patterns. -/
def openGroup (r : Reader) (cs : List Char) : Option (Reader × List Char) :=
  match r.flags.skip cs with
  | '?' :: 'P' :: '<' :: rest => readName r rest
  | '?' :: '<' :: rest =>
    if rest.head? = some '=' ∨ rest.head? = some '!' then none else readName r rest
  | '?' :: rest =>
    match r.flags.readLetters [] false false rest with
    | some (flags, bare, end_ :: rest) =>
      if end_ = ':' then some (r.enter none flags, rest)
      else if bare then none
      else some ({ r with flags, draft := r.draft.add ⟨.empty, 0, false⟩ }, rest)
    | _ => none
  | cs => some (r.enterNumbered, cs)

/-- Closes the group that was opened last. -/
def closeGroup (r : Reader) : Option Reader :=
  match r.groups with
  | [] => none
  | g :: groups =>
    let p := r.draft.whole
    let e := match g.number with
      | some n => Expr.group n p.expr
      | none => p.expr
    some { r with flags := g.flags, draft := g.outer.add ⟨e, p.depth + 1, true⟩, groups }

/-- Repeats the last part. A question mark directly behind turns its greed around. -/
def repeatLast (r : Reader) (count : Count) (cs : List Char) : Option (Reader × List Char) :=
  match r.draft.parts with
  | p :: parts =>
    if p.repeatable then
      let (lazy_, rest) := match cs with
        | '?' :: rest => (true, rest)
        | _ => (false, cs)
      let e := Expr.repeated count (lazy_ == r.flags.has .swapGreed) p.expr
      some ({ r with draft := { r.draft with parts := ⟨e, p.depth + 1, true⟩ :: parts } }, rest)
    else none
  | [] => none

/-- The pattern of a character that stands for itself. Where case does not count, only bytes have
another case. -/
def character (fs : Flags) (c : Char) : Option Expr :=
  if fs.has .ignoreCase then
    if fs.has .scripts then none else some (.one (CharSet.only c).foldAscii)
  else some (.one (CharSet.only c))

/-- The pattern of a point: any character, but no end of a line. -/
def point (fs : Flags) : Option Expr :=
  if !fs.has .scripts then none
  else if fs.has .dotAll then some (.one CharSet.full)
  else if fs.has .crlf then some (.one (CharSet.ofRanges [(0x0A, 0x0A), (0x0D, 0x0D)]).complement)
  else some (.one (CharSet.only '\n').complement)

/-- The start of the text or of a line. -/
def startAnchor (fs : Flags) : Anchor :=
  if !fs.has .multiLine then .textStart else if fs.has .crlf then .lineStartCrlf else .lineStart

/-- The end of the text or of a line. -/
def endAnchor (fs : Flags) : Anchor :=
  if !fs.has .multiLine then .textEnd else if fs.has .crlf then .lineEndCrlf else .lineEnd

/-- The pattern of an escape. Words and classes are those of ASCII, and only among bytes; the
characters outside of a class are not bytes of characters. -/
def escape (fs : Flags) : Escape → Option Expr
  | .char c => character fs c
  | .byte c => if fs.has .scripts ∨ c.toNat < 0x80 then character fs c else none
  | .named set negated => if fs.has .scripts ∨ negated then none else some (.one set)
  | .anchor .textStart => some (.anchor .textStart)
  | .anchor .textEnd => some (.anchor .textEnd)
  | .anchor a => if fs.has .scripts then none else some (.anchor a)

/-- Reads one thing. -/
def step (r : Reader) (c : Char) (rest : List Char) : Option (Reader × List Char) :=
  let fs := r.flags
  match c with
  | '(' => r.openGroup rest
  | ')' => r.closeGroup.map (·, rest)
  | '|' => some ({ r with draft := r.draft.next }, rest)
  | '[' => do
    let (set, depth, rest) ← Bracket.read fs rest
    some ({ r with draft := r.draft.add ⟨.one set, depth, true⟩ }, rest)
  | '?' => r.repeatLast .atMostOnce rest
  | '*' => r.repeatLast .anyTimes rest
  | '+' => r.repeatLast .atLeastOnce rest
  | '\x7b' => none
  | '.' => (point fs).map (r.put ·, rest)
  | '^' => some (r.put (.anchor (startAnchor fs)), rest)
  | '$' => some (r.put (.anchor (endAnchor fs)), rest)
  | '\\' => do
    let (e, rest) ← Escape.read fs rest
    (escape fs e).map (r.put ·, rest)
  | c => (character fs c).map (r.put ·, rest)

/-- Reads to the end. Every step reads something, so that the number of characters is fuel enough.
-/
def readFrom (fuel : Nat) (r : Reader) (cs : List Char) : Option Reader :=
  match fuel, r.flags.skip cs with
  | _, [] => some r
  | 0, _ :: _ => none
  | fuel + 1, c :: rest => do
    let (r, rest) ← r.step c rest
    readFrom fuel r rest

end Reader

/-- The pattern that characters stand for. -/
def Expr.ofChars? (cs : List Char) : Option Expr := do
  let r ← Reader.readFrom cs.length Reader.initial cs
  let p := r.draft.whole
  if r.groups = [] ∧ p.depth ≤ Reader.maxDepth then some p.expr else none

end Ingress.Pattern
