import Ingress.Log.Filter

/-!
# Lines of the log

What the log shows of events: those that its filter lets through, each with the span that it
happened in. A log may also show where spans begin and end.
-/

namespace Ingress.Log

/-- One entry of the log. -/
structure Line where
  level : Level
  target : String
  message : String
  fields : List (String × Value)
  /-- The span that the line is about. -/
  scope : Option Scope
  /-- The spans in which it was written, the outermost one first. -/
  around : List Scope

namespace Line

/-- The line for an event, in a span that is seen or in none. -/
def ofEvent (within_ : Option Scope) (e : Event) : Line :=
  ⟨e.level, e.target, e.message, e.fields, within_, within_.toList⟩

/-- The line for the beginning or the end of a span. -/
def ofScope (s : Scope) (message : String) : Line := ⟨s.level, s.target, message, [], some s, []⟩

end Line

/-- What decides about the lines of a log. -/
structure Logger where
  filter : Filter
  /-- Whether the beginnings and ends of spans are shown. -/
  spanEvents : Bool

namespace Logger

/-- The line for an event outside of spans, if it is let through. -/
def lines (l : Logger) (es : List Event) : List Line :=
  (es.filter (l.filter.allows none)).map (Line.ofEvent none)

/-- The lines for a span with what happens in it. A span that is not seen leaves no trace on the
lines within it. -/
def linesWithin (l : Logger) (s : Scope) (es : List Event) : List Line :=
  let seen := l.filter.seesScope s
  let mark (message : String) : List Line :=
    if seen && l.spanEvents then [Line.ofScope s message] else []
  let around := if seen then some s else none
  mark "new" ++ (es.filter (l.filter.allows around)).map (Line.ofEvent around) ++ mark "close"

end Logger

end Ingress.Log
