import Ingress.Pipeline.Handling
import Ingress.Service.Basic
import Ingress.Telemetry.Host

/-!
# Starting a service

A service that starts in a process sets up its log and its metrics first. The requests that it
handles then show in the log of the process, each in a span of its own.
-/

namespace Ingress.Service

open Telemetry (Host Setup)

/-- What keeps a service from starting. -/
inductive StartError
  | config (why : Config.Invalid)
  | telemetry (why : Telemetry.StartError)
deriving DecidableEq

/-- Starts a service: its configuration has to make sense, then telemetry is set up, and then the
parts are put together. A service whose metrics are off has a recorder of its own. -/
def start (c : Config) : Setup StartError Service := do
  match Config.validate c with
  | .error why => throw (.config why)
  | .ok () =>
    let shared ←
      ExceptT.adapt StartError.telemetry (Telemetry.start (Config.telemetrySettings c.telemetry))
    let recorder ← match shared with
      | some recorder => pure recorder
      | none =>
        match ownRecorder c with
        | .ok recorder => pure recorder
        | .error .noBounds => throw (.telemetry .noBounds)
    match assemble c recorder shared.isSome with
    | .error why => throw (.config why)
    | .ok service =>
      Telemetry.report
        (.serviceAssembled (c.pipeline.limit.millis % UInt64.size) c.retry.maxAttempts)
      pure service

/-- The span of the log in which a request is handled. -/
def scopeOf (c : Context) : Log.Scope :=
  ⟨"request", "vigil_middleware::pipeline", .info,
    [("traceid", c.traceId), ("http.method", c.method), ("http.route", c.routeLabel)]⟩

/-- Whether an event comes before the span of its request. -/
def isEarly : Log.Event → Bool
  | .inboundTraceUnreadable => true
  | .deadlineUnset _ => true
  | _ => false

/-- A service at work. -/
structure Running where
  service : Service
  host : Host
  world : World Unit

namespace Running

/-- Handles a request, and shows what happens in the log. -/
def handle (names : Names) (stamp : String) (route : Route) (request : Pipeline.Inbound)
    (handler : Pipeline.Handler Unit) (r : Running) : Running :=
  let work := Pipeline.handle r.service.deadline names stamp route request handler none
  match work.run r.world with
  | .done handled world =>
    let news := world.log.drop r.world.log.length
    let host := (r.host.show_ (news.filter isEarly)).showWithin (scopeOf handled.context)
      (news.filter fun e => !isEarly e)
    { r with host, world }
  | .panicked _ world => { r with world }
  | .never world => { r with world }

/-- The recorder with all requests that were handled. -/
def recorder (r : Running) : Metrics.Recorder :=
  r.world.samples.foldr (fun s recorder => recorder.record s) r.service.recorder

end Running

end Ingress.Service
