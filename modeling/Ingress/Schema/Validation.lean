import Ingress.Failure.Basic
import Ingress.Schema.Basic

/-!
# Validation

A body that departs from its schema fails the request, with all of its departures at once.
-/

namespace Ingress.Schema

/-- Refuses a value that departs from the schema. -/
def validate (s : Schema) (value : Json) : Except Failure Unit :=
  match s.violations value with
  | [] => .ok ()
  | violations => .error (.validation violations)

end Ingress.Schema
