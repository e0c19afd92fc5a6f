import Ingress.Time.Duration

/-!
# Metric samples

What is counted of one finished request.
-/

namespace Ingress.Metrics

/-- One finished request. The route is a template, never a concrete path. -/
structure Sample where
  method : String
  route : String
  status : Nat
  duration : Duration

end Ingress.Metrics
