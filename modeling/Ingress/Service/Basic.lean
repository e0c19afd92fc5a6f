import Ingress.Config.Validity
import Ingress.Pipeline.Deadline

/-!
# Services

A service is put together from a configuration that makes sense: the deadline of requests, the rules
of calls to other services, and a recorder of metrics.
-/

namespace Ingress

/-- What serves requests. -/
structure Service where
  deadline : Pipeline.Deadline
  policy : Retry.Policy
  recorder : Metrics.Recorder
  /-- Whether the recorder is the one of the whole process. -/
  isShared : Bool

namespace Service

/-- What keeps a service alone from being put together. -/
inductive BuildError
  | config (why : Config.Invalid)
  | recorder (why : Metrics.RecorderError)
deriving DecidableEq

/-- The recorder of a service that has one of its own. -/
def ownRecorder (c : Config) : Except Metrics.RecorderError Metrics.Recorder :=
  let settings := Config.metricsSettings c.telemetry
  Metrics.Recorder.new settings.serviceName settings.bounds

/-- Puts the parts together. -/
def assemble (c : Config) (recorder : Metrics.Recorder) (isShared : Bool) :
    Except Config.Invalid Service := do
  let policy ← Config.policy? c.retry
  pure ⟨Pipeline.Deadline.new (some c.pipeline.limit), policy, recorder, isShared⟩

/-- A service with a recorder of its own, which touches nothing that the process shares. -/
def alone (c : Config) : Except BuildError Service := do
  (Config.validate c).mapError .config
  let recorder ← (ownRecorder c).mapError .recorder
  (assemble c recorder false).mapError .config

end Service

end Ingress
