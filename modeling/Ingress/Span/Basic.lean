import Ingress.Span.Attribute
import Ingress.Dictionary

/-!
# Spans

A span is one operation of a request: a name, a completion status, attributes, and the events logged
while it was open. Spans of one request form a tree; each knows the place of its parent.

Of the times of a span only the end is kept, as that is what makes it finished. When it was started
and when its events were logged is left out: nothing is decided by them but that a span should not
end before it was started, and an end taken from a clock that never goes back cannot. What a wall
clock does that is set back while spans are open, where each span would be held back to its own
start and a child could end after its parent, is left out with them.
-/

namespace Ingress

namespace Span

/-- The name of a span among all spans: its tree and its place in it. -/
structure Id where
  tree : String
  index : Nat
deriving DecidableEq

/-- The written form of a span's name. -/
def Id.display (id : Id) : String := id.tree ++ "#" ++ toString id.index

/-- How the operation of a span ended. -/
inductive Status
  | unset
  | ok
  | error (message : String)
deriving DecidableEq

/-- Whether a status is one of failure. -/
def Status.isError : Status → Bool
  | .error _ => true
  | _ => false

/-- Something that happened while a span was open. The instant at which it did is left out. -/
structure Event where
  name : String
  attributes : Dictionary Attribute

end Span

/-- One operation of a request. -/
structure Span where
  id : Span.Id
  /-- The name of the parent; only the first span of a tree has none. -/
  parentId : Option Span.Id
  /-- The trace of the request. -/
  trace : String
  name : String
  /-- The place of the parent in the tree. -/
  parent : Option Nat
  attributes : Dictionary Span.Attribute
  status : Span.Status
  /-- In the order in which they were logged. -/
  events : List Span.Event
  /-- The instant at which the span was finished, as it is and not held back to a start. -/
  ended : Option Nat

namespace Span

/-- A span that has just been started. Of its parent the place and the name are given. -/
def start (id : Id) (trace name : String) (parent : Option (Nat × Id)) : Span :=
  ⟨id, parent.map (·.2), trace, name, parent.map (·.1), [], .unset, [], none⟩

/-- Whether the span is finished. -/
def isFinished (s : Span) : Bool := s.ended.isSome

/-- Gives an attribute its value. -/
def setAttribute (key : String) (value : Attribute) (s : Span) : Span :=
  { s with attributes := s.attributes.insert key value }

/-- Replaces the status. -/
def setStatus (status : Status) (s : Span) : Span := { s with status }

/-- Replaces the name. -/
def rename (name : String) (s : Span) : Span := { s with name }

/-- Adds an event after the earlier ones; of attributes with one name the last counts. -/
def logEvent (name : String) (attributes : List (String × Attribute)) (s : Span) : Span :=
  { s with events := s.events ++ [⟨name, Dictionary.ofPairs attributes⟩] }

/-- Finishes the span. -/
def finish (instant : Nat) (s : Span) : Span := { s with ended := some instant }

/-- The events with a given name. -/
def eventsNamed (name : String) (s : Span) : List Event := s.events.filter (·.name = name)

end Span

end Ingress
