import Ingress.Metrics.Recorder

/-!
# Telemetry settings

What a service reports under and how. The name of the service is set in one place: settings for logs
and metrics that come with another name take it over.
-/

namespace Ingress.Telemetry

/-- How log lines are written. -/
inductive LogFormat
  | json
  | pretty
deriving DecidableEq

/-- The name of a format in settings. -/
def LogFormat.name : LogFormat → String
  | .json => "json"
  | .pretty => "pretty"

/-- Settings for the log. -/
structure LogSettings where
  enabled : Bool
  /-- The filter. -/
  level : String
  format : LogFormat
  /-- Whether the beginnings and ends of requests are reported too. -/
  spanEvents : Bool
  /-- Whether a line tells where in the program it comes from. -/
  fileLineInfo : Bool
  serviceName : String

/-- Settings for metrics. -/
structure MetricsSettings where
  enabled : Bool
  /-- Where scrapers are answered, if anywhere. -/
  listenAddress : Option String
  serviceName : String
  /-- The bounds of the buckets, in milliseconds. -/
  bounds : List Float

namespace LogSettings

/-- The settings of a service that sets none. -/
def standard : LogSettings := ⟨true, "info", .json, false, false, "vigil-service"⟩

/-- Settings for a developer's eyes. -/
def development : LogSettings :=
  { standard with level := "debug", format := .pretty, spanEvents := true, fileLineInfo := true }

/-- Settings for a running service. -/
def production : LogSettings := standard

end LogSettings

/-- The metrics of a service that sets nothing. -/
def MetricsSettings.standard : MetricsSettings := ⟨true, none, "", Metrics.Recorder.defaultBounds⟩

/-- All settings. -/
structure Settings where
  serviceName : String
  environment : String
  metrics : MetricsSettings
  logging : LogSettings

namespace Settings

/-- Settings for a service of some name. -/
def new (serviceName environment : String) : Settings :=
  ⟨serviceName, environment, { MetricsSettings.standard with serviceName },
    { LogSettings.standard with serviceName }⟩

/-- Sets the metrics, under the name of the service. -/
def withMetrics (metrics : MetricsSettings) (s : Settings) : Settings :=
  { s with metrics := { metrics with serviceName := s.serviceName } }

/-- Sets the log, under the name of the service. -/
def withLogging (logging : LogSettings) (s : Settings) : Settings :=
  { s with logging := { logging with serviceName := s.serviceName } }

/-- The settings of a service that sets none. -/
def standard : Settings := new "vigil-service" "development"

/-- Settings for development. -/
def development : Settings := standard.withLogging .development

/-- Settings for production. -/
def production : Settings := (new "vigil-service" "production").withLogging .production

end Settings

end Ingress.Telemetry
