import Ingress.Pattern.CharSet

/-!
# Patterns

What a pattern says: characters from sets, conditions on the place between two characters, and these
in sequence, as alternatives and repeated. Among the ways in which a pattern can match, those that
come first are preferred: an earlier alternative to a later one, and a longer or a shorter
repetition as its greed says.
-/

namespace Ingress.Pattern

/-- A condition on the place between two characters. -/
inductive Anchor
  | textStart
  | textEnd
  | lineStart
  | lineEnd
  /-- The start of a line where carriage returns end lines too. -/
  | lineStartCrlf
  /-- The end of a line where carriage returns end lines too. -/
  | lineEndCrlf
  | wordEdge
  | noWordEdge
  | wordStart
  | wordEnd
deriving DecidableEq

/-- How often something may be repeated. -/
inductive Count
  | atMostOnce
  | anyTimes
  | atLeastOnce
deriving DecidableEq

/-- A pattern. Sequences and alternatives of several parts lean to the right. -/
inductive Expr
  | empty
  | one (set : CharSet)
  | anchor (anchor : Anchor)
  | seq (first second : Expr)
  | either (first second : Expr)
  | repeated (count : Count) (greedy : Bool) (body : Expr)
  /-- The group of a number. -/
  | group (number : Nat) (body : Expr)
deriving DecidableEq

namespace Expr

/-- The sequence of some parts. -/
def ofParts : List Expr → Expr
  | [] => empty
  | [e] => e
  | e :: rest => seq e (ofParts rest)

/-- The parts of a sequence. -/
def parts : Expr → List Expr
  | empty => []
  | seq a b => a :: parts b
  | e => [e]

/-- The branches of alternatives. -/
def branches : Expr → List Expr
  | either a b => a :: branches b
  | e => [e]

/-- The set of characters, if a pattern is no more than that. -/
def set? : Expr → Option CharSet
  | one s => some s
  | _ => none

/-- The parts that two sequences begin with. -/
def commonFront : List Expr → List Expr → List Expr
  | a :: as, b :: bs => if a = b then a :: commonFront as bs else []
  | _, _ => []

/-- The parts that all of some sequences begin with. -/
def sharedFront : List (List Expr) → List Expr
  | [] => []
  | ps :: rest => rest.foldl commonFront ps

/-- Alternatives as they stand. -/
def eitherOf : List Expr → Expr
  | [] => one CharSet.empty
  | [e] => e
  | e :: rest => either e (eitherOf rest)

/-- Alternatives in brief: sets become one set, and alternatives within alternatives are laid out.
-/
def choice (bs : List Expr) : Expr :=
  let bs := bs.flatMap branches
  match bs.mapM set? with
  | some (s :: rest) => one (rest.foldl CharSet.union s)
  | _ => eitherOf bs

/-- Alternatives. What all of them begin with is matched once, before the choice between them; this
holds if each is a sequence of at least two parts. -/
def alternatives (bs : List Expr) : Expr :=
  let bs := bs.flatMap branches
  let rows := bs.map parts
  let front := sharedFront rows
  if 2 ≤ bs.length ∧ (∀ ps ∈ rows, 2 ≤ ps.length) ∧ front ≠ [] then
    ofParts (front ++ parts (choice (rows.map fun ps => ofParts (ps.drop front.length))))
  else choice bs

end Expr

end Ingress.Pattern
