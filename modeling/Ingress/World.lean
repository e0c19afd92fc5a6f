import Ingress.Downstream.Network
import Ingress.Log
import Ingress.Metrics.Sample
import Ingress.Span.Change

/-!
# The world of a service

All that activities share: the clock, the span trees of the requests, the network, the log, the
samples taken, and the state that the application's handlers keep among themselves. It changes only
by effects.
-/

namespace Ingress

/-- What activities share. -/
structure World (ν : Type) where
  /-- The clock, in milliseconds. -/
  now : Nat
  /-- The span trees, in the order in which they were begun. -/
  trees : List SpanTree
  network : Downstream.Network
  /-- Random numbers to come; zeros follow them. -/
  draws : List Nat
  /-- What was reported, the latest first. -/
  reports : List Log.Event
  /-- The requests counted, the latest first. -/
  samples : List Metrics.Sample
  /-- The state of the application. -/
  app : ν

/-- One change of the world. -/
inductive Effect (ν : Type)
  /-- Nothing; the world is only looked at. -/
  | look
  /-- Begins a tree with an open root. -/
  | plant (label trace : String) (rootName : String)
  /-- Starts a child of an open span. -/
  | branch (parent : SpanRef) (name : String)
  /-- Changes a span, if it is open. -/
  | touch (span : SpanRef) (change : Span.Change)
  /-- Finishes a span and its open descendants. -/
  | finish (span : SpanRef)
  /-- Sends a request over the network. -/
  | send (request : Downstream.Request)
  /-- Takes a random number. -/
  | draw
  /-- Reports an event. -/
  | report (event : Log.Event)
  /-- Counts a request. -/
  | record (sample : Metrics.Sample)
  /-- Changes the state of the application. -/
  | app (f : ν → ν)

namespace World

/-- A world at the beginning of time. -/
def start (network : Downstream.Network) (draws : List Nat) (app : ν) : World ν :=
  ⟨0, [], network, draws, [], [], app⟩

/-- Moves the clock to an instant; it never goes back. -/
def advance (instant : Nat) (w : World ν) : World ν := { w with now := max w.now instant }

/-- The tree of a span. -/
def tree? (w : World ν) (s : SpanRef) : Option SpanTree := w.trees[s.tree]?

/-- A span as it is now. -/
def span? (w : World ν) (s : SpanRef) : Option Span := (w.tree? s).bind (·.spans[s.index]?)

/-- The trace of a span. -/
def traceOf (w : World ν) (s : SpanRef) : String := ((w.tree? s).map (·.trace)).getD ""

/-- Whether a span is finished. -/
def isFinished (w : World ν) (s : SpanRef) : Bool := (w.tree? s).any (·.isFinished s.index)

/-- The child that a span would get now, or why it cannot have one. -/
def child (w : World ν) (parent : SpanRef) : Except TraceError SpanRef :=
  match (w.tree? parent).bind (·.child? parent) with
  | some child => .ok child
  | none => .error (.parentFinished parent.id)

/-- The spans that finishing a span would finish now, as events, the last one first. -/
def closing (w : World ν) (s : SpanRef) : List Log.Event :=
  match w.tree? s with
  | some t => (t.closing s.index).filterMap fun i =>
      (t.spans[i]?).map fun span => .spanFinished span.trace span.id (span.finish w.now)
  | none => []

/-- The random number drawn now. -/
def drawn (w : World ν) : Nat := w.draws.headD 0

/-- What was reported, in order. -/
def log (w : World ν) : List Log.Event := w.reports.reverse

end World

namespace Effect

/-- Carries out an effect. -/
def apply : Effect ν → World ν → World ν
  | look, w => w
  | plant label trace rootName, w =>
    { w with trees := w.trees ++ [SpanTree.root label trace rootName] }
  | branch parent name, w => { w with trees := w.trees.modify parent.tree (·.startChild parent name) }
  | touch span change, w =>
    { w with trees := w.trees.modify span.tree (·.modifyOpen span.index (Span.change change)) }
  | finish span, w =>
    { w with
      trees := w.trees.modify span.tree (·.finish span.index w.now)
      reports := (w.closing span).reverse ++ w.reports }
  | send request, w => { w with network := w.network.send request }
  | draw, w => { w with draws := w.draws.drop 1 }
  | report event, w => { w with reports := event :: w.reports }
  | record sample, w => { w with samples := sample :: w.samples }
  | app f, w => { w with app := f w.app }

/-- No effect moves the clock. -/
theorem now_apply (e : Effect ν) (w : World ν) : (e.apply w).now = w.now := by cases e <;> rfl

end Effect

end Ingress
