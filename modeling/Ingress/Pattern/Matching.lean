import Ingress.Pattern.Machine
import Ingress.Pattern.Reader

/-!
# Matching patterns

A text is searched from left to right for the preferred match of a pattern: among those that start
first, the one whose way is preferred. All ways are followed at once, in order of preference; a
match ends those that are preferred less. A text is matched if the preferred match ends where the
text ends.
-/

namespace Ingress.Pattern

/-- One byte of a text: the first one of a character, or one that continues it. -/
inductive Cell
  | first (c : Char)
  | inside

namespace Cell

/-- The bytes of characters. -/
def ofChars (cs : List Char) : List Cell :=
  cs.flatMap fun c => first c :: List.replicate (c.utf8Size - 1) inside

/-- Whether a byte is some character. -/
def isChar (c : Char) : Cell → Bool
  | first d => c = d
  | inside => false

/-- Whether a byte is a character of ASCII words. -/
def isWord : Cell → Bool
  | first c => Escape.wordCharacters.contains c
  | inside => false

end Cell

/-- A place in a text: the bytes on both sides. -/
structure Place where
  before : Option Cell
  after : Option Cell

/-- Whether a condition holds at a place. Between a carriage return and its line feed no line ends.
-/
def Anchor.holds (a : Anchor) (p : Place) : Bool :=
  let ended (c : Char) (side : Option Cell) : Bool := side.any (Cell.isChar c)
  let word (side : Option Cell) : Bool := side.any Cell.isWord
  match a with
  | textStart => p.before.isNone
  | textEnd => p.after.isNone
  | lineStart => p.before.isNone || ended '\n' p.before
  | lineEnd => p.after.isNone || ended '\n' p.after
  | lineStartCrlf =>
    p.before.isNone || ended '\n' p.before || (ended '\r' p.before && !ended '\n' p.after)
  | lineEndCrlf =>
    p.after.isNone || ended '\r' p.after || (ended '\n' p.after && !ended '\r' p.before)
  | wordEdge => word p.before != word p.after
  | noWordEdge => word p.before == word p.after
  | wordStart => !word p.before && word p.after
  | wordEnd => word p.before && !word p.after

namespace Machine

/-- The nodes that can be reached from some nodes without a character, in order of preference,
behind those that were reached before. Each node is reached once; `reached` is in reverse. Every
node puts at most two others on the list, so that fuel for three times the nodes and the list is
enough. -/
def follow (m : Machine) (p : Place) : Nat → List Nat → List Nat → List Nat
  | 0, _, reached => reached
  | _, [], reached => reached
  | fuel + 1, n :: todo, reached =>
    if reached.contains n then follow m p fuel todo reached
    else
      let todo := match m.nodes[n]? with
        | some (.check a next) => if a.holds p then next :: todo else todo
        | some (.fork first second) => first :: second :: todo
        | _ => todo
      follow m p fuel todo (n :: reached)

/-- One way through the machine: it arrives at a node after some more bytes. -/
structure Way where
  node : Nat
  wait : Nat

/-- What the ways have come to at a place. -/
structure Front where
  /-- The nodes reached at the place, in reverse. -/
  reached : List Nat
  /-- The ways that go on, in reverse. -/
  ways : List Way
  /-- Whether a match ends here. Ways that are preferred less have ended then. -/
  matched : Bool

/-- What a node does at a place where ways arrive at it. -/
def Front.visit (m : Machine) (p : Place) (f : Front) (n : Nat) : Front :=
  if f.matched then f
  else match m.nodes[n]? with
    | some Node.done => { f with matched := true }
    | some (Node.take set next) =>
      match p.after with
      | some (Cell.first c) =>
        if set.contains c then { f with ways := ⟨next, c.utf8Size - 1⟩ :: f.ways } else f
      | _ => f
    | _ => f

/-- The next way at a place, before a byte. -/
def Front.advance (m : Machine) (p : Place) (f : Front) (w : Way) : Front :=
  if f.matched then f
  else match w.wait with
    | k + 1 => { f with ways := ⟨w.node, k⟩ :: f.ways }
    | 0 =>
      let reached := m.follow p (3 * m.nodes.size + 1) [w.node] f.reached
      let fresh := (reached.take (reached.length - f.reached.length)).reverse
      fresh.foldl (Front.visit m p) { f with reached }

/-- What some ways come to at a place. While nothing has matched, another way starts at every
place. -/
def front (m : Machine) (searching : Bool) (ways : List Way) (p : Place) : Front :=
  (if searching then ways ++ [⟨m.start, 0⟩] else ways).foldl (Front.advance m p) ⟨[], [], false⟩

/-- Follows all ways to the end of a text. -/
def run (m : Machine) (searching : Bool) (ways : List Way) (before : Option Cell) :
    List Cell → Bool
  | [] => (m.front searching ways ⟨before, none⟩).matched
  | cell :: rest =>
    let f := m.front searching ways ⟨before, some cell⟩
    run m (searching && !f.matched) f.ways.reverse (some cell) rest

end Machine

/-- Whether the preferred match of a pattern in a text ends with the text. -/
def Expr.matchesToEnd (e : Expr) (text : String) : Bool :=
  (Machine.ofExpr e).run true [] none (Cell.ofChars text.toList)

end Ingress.Pattern
