import Ingress.Activity.Basic

/-!
# Work on spans

The effects on span trees as activities.
-/

namespace Ingress.Activity

/-- Begins a tree and gives its root. -/
def plant (label trace rootName : String) : Activity ν SpanRef := do
  let w ← perform (.plant label trace rootName)
  pure ⟨w.trees.length, 0, ⟨label, 0⟩⟩

/-- Starts a child of a span. -/
def startChild (parent : SpanRef) (name : String) : Activity ν (Except TraceError SpanRef) := do
  let w ← perform (.branch parent name)
  pure (w.child parent)

/-- Gives an attribute of a span its value. -/
def setAttribute (span : SpanRef) (key : String) (value : Span.Attribute) : Activity ν Unit :=
  cause (.touch span (.attribute key value))

/-- Sets the status of a span. -/
def setStatus (span : SpanRef) (status : Span.Status) : Activity ν Unit :=
  cause (.touch span (.status status))

/-- Renames a span. -/
def rename (span : SpanRef) (name : String) : Activity ν Unit := cause (.touch span (.name name))

/-- Logs an event of a span. -/
def logEvent (span : SpanRef) (name : String) (attributes : List (String × Span.Attribute)) :
    Activity ν Unit :=
  cause (.touch span (.event name attributes))

/-- Finishes a span and its open descendants. -/
def finish (span : SpanRef) : Activity ν Unit := cause (.finish span)

end Ingress.Activity
