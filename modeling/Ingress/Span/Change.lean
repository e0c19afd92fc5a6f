import Ingress.Span.Tree

/-!
# Changes of a span

The four ways in which an open span can be changed apart from finishing it.
-/

namespace Ingress.Span

/-- A change of one field of a span. -/
inductive Change
  | attribute (key : String) (value : Attribute)
  | status (status : Status)
  | name (name : String)
  | event (name : String) (attributes : List (String × Attribute))

/-- Carries out a change. -/
def change : Change → Span → Span
  | .attribute key value => setAttribute key value
  | .status status => setStatus status
  | .name name => rename name
  | .event name attributes => logEvent name attributes

theorem ended_change (c : Change) (s : Span) : (change c s).ended = s.ended := by cases c <;> rfl

theorem parent_change (c : Change) (s : Span) : (change c s).parent = s.parent := by cases c <;> rfl

end Ingress.Span
