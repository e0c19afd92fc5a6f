import Ingress.Span.Basic

/-!
# The span tree of a request

A tree only grows: a span keeps its place, and a child comes after its parent. A finished span never
changes again, and finishing a span finishes all of its open descendants with it, so that no child
is seen to end after its parent.
-/

namespace Ingress

/-- A handle to one span: the place of its tree among the trees, its place in it, and its name. -/
structure SpanRef where
  tree : Nat
  index : Nat
  id : Span.Id
deriving DecidableEq

/-- All spans of one request. -/
structure SpanTree where
  /-- The name of the tree. -/
  name : String
  /-- The trace that the spans belong to. -/
  trace : String
  spans : List Span

namespace SpanTree

/-- A tree with an open root. -/
def root (name trace rootName : String) : SpanTree :=
  ⟨name, trace, [Span.start ⟨name, 0⟩ trace rootName none]⟩

/-- The name of the span at a place. -/
def id (t : SpanTree) (i : Nat) : Span.Id := ⟨t.name, i⟩

/-- Whether the span at a place is finished. -/
def isFinished (t : SpanTree) (i : Nat) : Bool := t.spans[i]?.any Span.isFinished

/-- Whether there is a span at a place and it is not finished. -/
def isOpen (t : SpanTree) (i : Nat) : Bool := t.spans[i]?.any fun s => !s.isFinished

/-- Whether no span can be added any more. -/
def isClosed (t : SpanTree) : Bool := t.isFinished 0

/-- Changes the span at a place, if it is open. -/
def modifyOpen (i : Nat) (f : Span → Span) (t : SpanTree) : SpanTree :=
  { t with spans := t.spans.modify i fun s => if s.isFinished then s else f s }

/-- The handle of the child that a span would get; only an open span gets one. -/
def child? (parent : SpanRef) (t : SpanTree) : Option SpanRef :=
  if t.isOpen parent.index then some ⟨parent.tree, t.spans.length, t.id t.spans.length⟩ else none

/-- Adds an open child of an open span. -/
def startChild (parent : SpanRef) (name : String) (t : SpanTree) : SpanTree :=
  match t.child? parent with
  | some child =>
    { t with
      spans := t.spans ++ [Span.start child.id t.trace name (some (parent.index, parent.id))] }
  | none => t

/-- For each span whether it is the one at `top` or descends from it. Parents come first, so one
pass from the front settles it. -/
def marks (top : Nat) (spans : List Span) : List Bool :=
  spans.foldl (fun marks s =>
    marks ++ [marks.length == top || s.parent.any fun p => marks[p]?.getD false]) []

/-- Finishes a span and its open descendants, all of them at the same instant. -/
def finish (i : Nat) (instant : Nat) (t : SpanTree) : SpanTree :=
  if t.isFinished i then t
  else
    { t with
      spans := List.zipWith
        (fun s inside => if inside && !s.isFinished then s.finish instant else s)
        t.spans (marks i t.spans) }

/-- The places of the spans that finishing a span would finish, the last one first. -/
def closing (i : Nat) (t : SpanTree) : List Nat :=
  if t.isFinished i then []
  else
    let inside := marks i t.spans
    ((List.range t.spans.length).filter fun j =>
      inside[j]?.getD false && !t.isFinished j).reverse

theorem marks_length (top : Nat) (spans : List Span) : (marks top spans).length = spans.length := by
  have h : ∀ (acc : List Bool), (spans.foldl (fun marks s =>
      marks ++ [marks.length == top || s.parent.any fun p => marks[p]?.getD false]) acc).length
        = acc.length + spans.length := by
    induction spans with
    | nil => intro acc; rfl
    | cons s rest ih => intro acc; simp [ih]; omega
  simp [marks, h]

/-- No operation removes a span. -/
theorem length_finish (i instant : Nat) (t : SpanTree) :
    (t.finish i instant).spans.length = t.spans.length := by
  unfold finish
  split
  · rfl
  · simp [marks_length]

end SpanTree

/-- Why a span cannot be a parent. -/
inductive TraceError
  /-- The parent is finished. -/
  | parentFinished (parent : Span.Id)
  /-- The parent belongs to another request. -/
  | foreignSpan (parent : Span.Id) (trace : String)
deriving DecidableEq

/-- The sentence for a refused parent. -/
def TraceError.message : TraceError → String
  | .parentFinished parent => "parent span " ++ parent.display ++ " is already finished"
  | .foreignSpan parent trace =>
    "span " ++ parent.display ++ " does not belong to trace " ++ trace

end Ingress
