import Ingress.Pattern.Basic

/-!
# Machines of patterns

A pattern as a machine of numbered nodes. A node takes a character, checks a place, or leads on to
two nodes of which the first is preferred. A repetition leads back to a fork of its own, which
decides after each round whether another one follows.
-/

namespace Ingress.Pattern

/-- What happens at a node, and the nodes that follow. -/
inductive Node
  /-- The end: the pattern has matched. -/
  | done
  | take (set : CharSet) (next : Nat)
  | check (anchor : Anchor) (next : Nat)
  | fork (first second : Nat)

/-- A machine: its nodes and the one that it starts at. -/
structure Machine where
  nodes : Array Node
  start : Nat

namespace Machine

/-- A fork between going on within something and leaving it. -/
def forkFor (greedy : Bool) (inside after : Nat) : Node :=
  if greedy then .fork inside after else .fork after inside

/-- Adds the nodes of a pattern that leads on to a node, and gives the node that it starts at. -/
def build : Expr → Nat → Array Node → Nat × Array Node
  | .empty, after, nodes => (after, nodes)
  | .one set, after, nodes => (nodes.size, nodes.push (.take set after))
  | .anchor a, after, nodes => (nodes.size, nodes.push (.check a after))
  | .seq a b, after, nodes =>
    let (middle, nodes) := build b after nodes
    build a middle nodes
  | .either a b, after, nodes =>
    let (first, nodes) := build a after nodes
    let (second, nodes) := build b after nodes
    (nodes.size, nodes.push (.fork first second))
  | .repeated .atMostOnce greedy body, after, nodes =>
    let (inside, nodes) := build body after nodes
    (nodes.size, nodes.push (forkFor greedy inside after))
  | .repeated .atLeastOnce greedy body, after, nodes =>
    let again := nodes.size
    let (inside, nodes) := build body again (nodes.push .done)
    (inside, nodes.setIfInBounds again (forkFor greedy inside after))
  | .repeated .anyTimes greedy body, after, nodes =>
    let again := nodes.size
    let (inside, nodes) := build body again (nodes.push .done)
    let nodes := nodes.setIfInBounds again (forkFor greedy inside after)
    (nodes.size, nodes.push (forkFor greedy inside after))
  | .group _ body, after, nodes => build body after nodes

/-- The machine of a pattern. Its first node is the end. -/
def ofExpr (e : Expr) : Machine :=
  let (start, nodes) := build e 0 #[.done]
  ⟨nodes, start⟩

end Machine

end Ingress.Pattern
