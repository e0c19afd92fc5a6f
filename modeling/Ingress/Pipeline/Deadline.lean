import Ingress.Activity.Limit
import Ingress.Context
import Ingress.Failure.Basic

/-!
# Deadlines

A request may take as long as its route says, or else as long as the service says, or else one
minute.
-/

namespace Ingress.Pipeline

/-- The limit of a service that sets none. -/
def fallbackLimit : Duration := .ofSecs 60

/-- The limits of a service. -/
structure Deadline where
  /-- For routes without a limit of their own. -/
  default : Duration

namespace Deadline

/-- The limits of a service that may set one. -/
def new (default : Option Duration) : Deadline := ⟨default.getD fallbackLimit⟩

/-- The limit that counts. -/
def limit (own : Option Duration) (d : Deadline) : Duration := own.getD d.default

/-- Runs an activity within the limit. When the limit comes first, this is reported, and the limit
and the route are given. -/
def run (context : Context) (own : Option Duration) (a : Activity ν α) (d : Deadline) :
    Activity ν (Except (Duration × String) α) := do
  let limit := d.limit own
  match ← Activity.within limit a with
  | some value => pure (.ok value)
  | none =>
    Activity.report (.deadlineExceeded context.traceId context.routeLabel limit)
    pure (.error (limit, context.routeLabel))

end Deadline

end Ingress.Pipeline
