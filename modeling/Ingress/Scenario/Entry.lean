import Ingress.Scenario.Step

/-!
# Entries

What a step found out or brought about is kept as an entry, with the time at which it was done.
-/

namespace Ingress.Scenario

/-- A span as it is shown. -/
structure SpanView where
  id : Span.Id
  parent : Option Span.Id
  trace : String
  span : Span

/-- A span with the names that it carries. -/
def SpanView.of (span : Span) : SpanView := ⟨span.id, span.parentId, span.trace, span⟩

/-- A context as it is shown. -/
structure ContextView where
  context : Context
  role : String
  /-- Whether no time is left, if a time was granted. -/
  isExpired : Option Bool
  isClosed : Bool
  spans : Nat

/-- What a step found out. -/
inductive Finding
  | ok
  | refused (why : Json.Refusal)
  | context (view : ContextView)
  | child (id : Span.Id) (trace : String)
  | noChild (error : TraceError)
  /-- The spans that were finished, in the order in which they were started. -/
  | finished (ids : List Span.Id)
  | span (view : SpanView) (key : Option String)
  | tree (views : List SpanView)
  | sameTrace (same : Bool)
  | headers (trace : String) (headers : Headers)
  | answered (response : Downstream.Response)
  | noAnswer (error : Downstream.CallError)
  | inTime
  | tooLate (limit : Duration) (route : String)
  | joined
  | valid
  /-- A name stands for nothing. -/
  | unknown

/-- The failure that a finding amounts to, if it is one. -/
def Finding.failure? : Finding → Option Failure
  | .refused (.unfit why) => some (.fault (why.message .json))
  | .refused .malformed => some (.fault "")
  | .noChild error => some (.ofTraceError error)
  | .noAnswer error => some error.toFailure
  | .tooLate limit route => some (.timeout limit route)
  | _ => none

/-- A step that was done. -/
structure Entry where
  step : String
  /-- The clock after the step. -/
  time : Nat
  finding : Finding

/-- What the steps of all handlers share: the names and the entries. -/
structure Board where
  contexts : List (String × Context)
  spans : List (String × SpanRef)
  /-- The entries of each handler, the latest first. -/
  entries : List (String × Entry)

namespace Board

/-- A board with nothing on it. -/
def empty : Board := ⟨[], [], []⟩

/-- The context of a name. -/
def context? (name : String) (b : Board) : Option Context :=
  (b.contexts.find? (·.1 = name)).map (·.2)

/-- The span of a name. -/
def span? (name : String) (b : Board) : Option SpanRef :=
  ((b.spans.find? (·.1 = name)).map (·.2)).or ((b.context? name).map (·.root))

/-- Gives a context a name. -/
def bind (name : String) (c : Context) (b : Board) : Board :=
  { b with contexts := (name, c) :: b.contexts }

/-- Gives a span a name. -/
def bindSpan (name : String) (s : SpanRef) (b : Board) : Board :=
  { b with spans := (name, s) :: b.spans }

/-- Keeps an entry of a handler. -/
def keep (handler : String) (e : Entry) (b : Board) : Board :=
  { b with entries := (handler, e) :: b.entries }

/-- The entries of a handler, in order. -/
def entriesOf (handler : String) (b : Board) : List Entry :=
  (b.entries.reverse.filter (·.1 = handler)).map (·.2)

end Board

end Ingress.Scenario
