import Ingress.Activity.Tracing
import Ingress.Identity
import Ingress.Route

/-!
# Request contexts

A context is what a handler knows of its request: the trace, the root of the span tree, the caller,
and the route. What is set on a context is also noted on the root span. Copies of a context share
the tree.
-/

namespace Ingress

/-- What is known of a request. -/
structure Context where
  traceId : String
  root : SpanRef
  /-- The time granted to the request from its beginning. -/
  granted : Option Duration
  identity : Option Identity
  authorization : Option ByteArray
  method : String
  path : String
  route : Option Route
  /-- The instant at which the request began. -/
  began : Nat

/-- The names that a new request may take: of its tree, and of its trace if it brings none. -/
structure Names where
  tree : String
  trace : String

namespace Context

/-- The name of a root span before its route is known. -/
def rootName : String := "request"

/-- The trace of a request: the inbound one as it stands, unless it is missing or empty. -/
def traceOf (inbound : Option String) (fresh : String) : String :=
  match inbound with
  | some trace => if trace = "" then fresh else trace
  | none => fresh

/-- The context of a request that begins. -/
def start (names : Names) (inbound : Option String) : Activity ν Context := do
  let trace := traceOf inbound names.trace
  let root ← Activity.plant names.tree trace rootName
  let w ← Activity.world
  pure ⟨trace, root, none, none, none, "", "", none, w.now⟩

/-- Sets the method. -/
def withMethod (method : String) (c : Context) : Activity ν Context := do
  Activity.setAttribute c.root "http.method" (.text method)
  pure { c with method }

/-- Sets the path. -/
def withPath (path : String) (c : Context) : Activity ν Context := do
  Activity.setAttribute c.root "http.target" (.text path)
  pure { c with path }

/-- Sets the route, which also names the root span. -/
def withRoute (route : Route) (c : Context) : Activity ν Context := do
  Activity.rename c.root (route.method ++ " " ++ route.template)
  Activity.setAttribute c.root "http.route" (.text route.template)
  pure { c with route := some route }

/-- Sets the caller. -/
def withIdentity (identity : Identity) (c : Context) : Activity ν Context := do
  Activity.setAttribute c.root "enduser.id" (.text identity.logId)
  pure { c with identity := some identity }

/-- Starts a child of a span of this request. -/
def startChild (c : Context) (parent : SpanRef) (name : String) :
    Activity ν (Except TraceError SpanRef) :=
  if parent.tree = c.root.tree then Activity.startChild parent name
  else pure (.error (.foreignSpan parent.id c.traceId))

/-- What the request is counted under: the template of its route, or else its path. -/
def routeLabel (c : Context) : String :=
  match c.route with
  | some route => route.template
  | none => c.path

/-- The time that is left after some time has passed. -/
def remaining (passed : Duration) (c : Context) : Option Duration :=
  c.granted.map fun granted => Duration.ofNanos (granted.nanos - passed.nanos)

end Context

end Ingress
