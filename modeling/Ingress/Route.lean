import Ingress.Time.Duration
import Ingress.Decimal.Binary
import Ingress.Json.Decoder

/-!
# Routes

What is known of a route before any request: its method and template, the component and operation
behind it, and how long a request may take. A route is written as JSON with its limit in
milliseconds.
-/

namespace Ingress

/-- One route of a service. -/
structure Route where
  method : String
  /-- The path with its parameters unnamed, as metrics show it. -/
  template : String
  component : String
  operation : String
  maxDuration : Option Duration

namespace Route

/-- A route without a limit of its own; its method is in capitals. -/
def new (method template component operation : String) : Route :=
  ⟨Text.upperAscii method, template, component, operation, none⟩

/-- Whole milliseconds in a number of minutes, halves rounded up and at most what 64 bits hold; a
negative number, infinity and `NaN` are no duration. -/
def minutesToMillis? (minutes : Float) : Option Nat :=
  match Decimal.isFinite minutes && 0.0 ≤ minutes, Decimal.Meaning.ofFloat (minutes * 60000.0) with
  | false, _ => none
  | true, .infinite _ => some (UInt64.size - 1)
  | true, _ => some (min (Decimal.roundToNat (minutes * 60000.0)) (UInt64.size - 1))

/-- Sets the limit in minutes; what is no duration changes nothing. -/
def withMinutes (minutes : Float) (r : Route) : Route :=
  match minutesToMillis? minutes with
  | some ms => { r with maxDuration := some (.ofMillis ms) }
  | none => r

/-- Sets the limit. -/
def withMaxDuration (limit : Duration) (r : Route) : Route :=
  { r with maxDuration := some limit }

/-- The logical place of the route, as error envelopes show it. -/
def identity (r : Route) : String := r.component ++ "/" ++ r.operation

/-- The route as JSON; of the milliseconds the low 64 bits are kept. -/
def toJson (r : Route) : Json :=
  .object [("method", .string r.method), ("template", .string r.template),
    ("component", .string r.component), ("operation", .string r.operation),
    ("max_duration", .ofOption (fun d => .ofNat (d.millis % UInt64.size)) r.maxDuration)]

open Json Json.Decoder in
/-- The fields of a written route. -/
def shape : Shape Reading where
  title := "struct RouteConfig"
  fields := [⟨"method", fits text, false⟩, ⟨"template", fits text, false⟩,
    ⟨"component", fits text, false⟩, ⟨"operation", fits text, false⟩,
    ⟨"max_duration", fits (optional (unsigned 64 "u64")), true⟩]
  strict := false
  surplus := .malformed

open Json Json.Decoder in
/-- Reads a written route, its method as it stands. -/
def decode : Decoder Route := fun r => do
  let fs ← shape.decode r
  let method ← member text "method" fs
  let template ← member text "template" fs
  let component ← member text "component" fs
  let operation ← member text "operation" fs
  let limit ← memberD (optional (unsigned 64 "u64")) "max_duration" none fs
  pure ⟨method, template, component, operation, limit.map .ofMillis⟩

end Route

end Ingress
