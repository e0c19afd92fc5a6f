import Ingress.Failure.Envelope
import Ingress.Report.Values

/-!
# Reports of failures
-/

namespace Ingress.Report

/-- What a failure was classified as. -/
def classification (c : Classification) : List (String × Json) :=
  [("status", .ofNat c.status), ("kind", .string c.kind.name), ("messages", texts c.messages),
    ("context", optText c.context), ("retry_after", optNat c.retryAfter)]

/-- What is known of a failure. -/
def failure (f : Failure) : List (String × Json) :=
  [("display", .string f.display), ("kind", .string f.kind.name),
    ("explicit_status", optNat f.explicitStatus?), ("context", optText f.label?),
    ("supplied_message", optText f.suppliedMessage?), ("root", .string f.root.display),
    ("sources", texts f.sources), ("classification", .object (classification f.classify))]

/-- A violation, and the messages for it. -/
def violation (v : Violation) : Json :=
  .object [("field", .string v.field), ("display", .string v.display),
    ("message", .string (Classification.formatViolation v)), ("json", .string v.toJson.write)]

end Ingress.Report
