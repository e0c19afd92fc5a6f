import Ingress.Downstream.NetworkCode
import Ingress.Retry.Policy
import Ingress.Telemetry.Settings

/-!
# Configurations

Everything about a service that is not decided in its program: the limits of requests, the rules of
retrying, the log and the metrics.
-/

namespace Ingress

namespace Config

/-- The limits of requests. -/
structure Pipeline where
  defaultTimeout : Option Nat
  /-- The limit where no default is set. -/
  fallbackTimeout : Nat

/-- The rules of retrying. -/
structure Retry where
  maxAttempts : Nat
  baseBackoff : Nat
  jitter : Nat
  attemptTimeout : Option Nat
  statuses : List Nat
  serverErrors : Bool
  codes : List Downstream.NetworkCode
  methods : List String

/-- The metrics. -/
structure Metrics where
  enabled : Bool
  listenAddress : Option String
  bounds : List Float

/-- The log. -/
structure Logging where
  enabled : Bool
  level : String
  format : Ingress.Telemetry.LogFormat
  spanEvents : Bool
  fileLineInfo : Bool

/-- What a service reports. -/
structure Telemetry where
  serviceName : String
  environment : String
  metrics : Metrics
  logging : Logging

/-- The limits of a service that sets none. -/
def Pipeline.standard : Pipeline := ⟨none, 60000⟩

/-- The rules of a service that sets none. -/
def Retry.standard : Retry :=
  ⟨3, 100, 100, some 10000, Ingress.Retry.Policy.defaultStatuses, true, Downstream.NetworkCode.all,
    Ingress.Retry.Policy.defaultMethods⟩

/-- The metrics of a service that sets nothing. -/
def Metrics.standard : Metrics := ⟨true, none, Ingress.Metrics.Recorder.defaultBounds⟩

/-- The log of a service that sets nothing. -/
def Logging.standard : Logging := ⟨true, "info", .json, false, false⟩

/-- What a service reports that sets nothing. -/
def Telemetry.standard : Telemetry := ⟨"vigil-service", "development", .standard, .standard⟩

/-- The limit of requests on routes without one of their own. -/
def Pipeline.limit (p : Pipeline) : Duration :=
  .ofMillis (p.defaultTimeout.getD p.fallbackTimeout)

end Config

/-- The configuration of a service. -/
structure Config where
  pipeline : Config.Pipeline
  retry : Config.Retry
  telemetry : Config.Telemetry

namespace Config

/-- The configuration of a service that sets nothing. -/
def standard : Config := ⟨.standard, .standard, .standard⟩

/-- A configuration for development: no retries, and a log to be read. -/
def development : Config :=
  { standard with
    retry := { Retry.standard with maxAttempts := 1 }
    telemetry := { Telemetry.standard with
      environment := "development"
      logging :=
        { Logging.standard with level := "debug", format := .pretty, fileLineInfo := true } } }

/-- A configuration for production: metrics are to be had from everywhere. -/
def production : Config :=
  { standard with
    telemetry := { Telemetry.standard with
      environment := "production"
      metrics := { Metrics.standard with listenAddress := some "0.0.0.0:9090" } } }

/-- The settings for metrics. -/
def metricsSettings (t : Telemetry) : Ingress.Telemetry.MetricsSettings :=
  ⟨t.metrics.enabled, t.metrics.listenAddress, t.serviceName, t.metrics.bounds⟩

/-- The settings for telemetry. -/
def telemetrySettings (t : Telemetry) : Ingress.Telemetry.Settings :=
  let l := t.logging
  let logging : Ingress.Telemetry.LogSettings :=
    ⟨l.enabled, l.level, l.format, l.spanEvents, l.fileLineInfo, t.serviceName⟩
  ((Ingress.Telemetry.Settings.new t.serviceName t.environment).withMetrics
    (metricsSettings t)).withLogging logging

end Config

end Ingress
