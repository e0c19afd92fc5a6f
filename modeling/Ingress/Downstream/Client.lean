import Ingress.Context
import Ingress.Downstream.Call
import Ingress.Http.Text

/-!
# Clients bound to a request

A client that is bound to the context of a request puts the trace id and the caller's credentials on
every call and keeps the spans of the calls within the tree of the request.
-/

namespace Ingress

namespace Context

/-- Puts what is passed on into headers, in the place of what they hold. A trace id that is no
header value is left out, with a report. -/
def propagate (c : Context) (headers : Headers) : Activity ν Headers := do
  let traced ← match Http.headerValue? c.traceId with
    | some value => pure (headers.insert Headers.traceId value)
    | none => do
      Activity.report (.traceUnsendable c.traceId)
      pure headers
  match c.authorization with
  | some value => pure (traced.insert Headers.authorization value)
  | none => pure traced

end Context

namespace Downstream

/-- A client for the calls of one request. -/
structure Client where
  policy : Retry.Policy
  context : Context
  /-- The span that the spans of the calls are under. -/
  parent : SpanRef

namespace Client

/-- The client of a request, with its calls under the root. -/
def ofContext (policy : Retry.Policy) (context : Context) : Client :=
  ⟨policy, context, context.root⟩

/-- Puts the calls under a span of the same request. -/
def under (span : SpanRef) (c : Client) : Activity ν (Except CallError Client) := do
  if span.tree = c.context.root.tree then pure (.ok { c with parent := span })
  else pure (.error (.trace (.foreignSpan span.id c.context.traceId)))

/-- Sends a request with what is passed on. -/
def send (request : Request) (c : Client) : Activity ν (Except CallError Response) := do
  let headers ← c.context.propagate request.headers
  Call.run c.policy c.parent { request with headers }

end Client

end Downstream

end Ingress
