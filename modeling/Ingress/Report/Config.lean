import Ingress.Config.Loader
import Ingress.Report.Values

/-!
# Reports of configurations
-/

namespace Ingress.Report

/-- Floating point numbers, by their shortest digits. -/
def floats (xs : List Float) : Json :=
  .array (xs.map fun x => .string (Decimal.Layout.plain.write x))

/-- A setting that makes no sense. -/
def invalid (i : Config.Invalid) : Json :=
  .object [("error", .string "InvalidValue"), ("field", .string i.field),
    ("message", .string i.message)]

/-- The kind of an error of loading. -/
def loadErrorKind : Config.LoadError → String
  | .missingFile _ => "MissingFile"
  | .unreadable _ => "Read"
  | .unsupportedFormat _ => "UnsupportedFormat"
  | .document .toml .malformed => "TomlSyntax"
  | .document .toml (.unfit _) => "TomlData"
  | .document .json .malformed => "JsonSyntax"
  | .document .json (.unfit _) => "JsonData"
  | .environmentFile _ => "Dotenv"
  | .invalid _ => "InvalidValue"
  | .override _ => "EnvOverride"

/-- Why a configuration cannot be loaded. -/
def loadError (e : Config.LoadError) : Json :=
  let base := [("error", Json.string (loadErrorKind e))]
  let message := match e.message? with
    | some m => [("message", Json.string m)]
    | none => []
  let more := match e with
    | .invalid i => [("field", Json.string i.field)]
    | .override b => [("var", Json.string b.variable_)]
    | _ => []
  .object (base ++ message ++ more)

/-- All settings of a configuration. -/
def config (c : Config) : Json :=
  let r := c.retry
  let t := c.telemetry
  .object [
    ("pipeline", .object [("default_timeout_ms", optNat c.pipeline.defaultTimeout),
      ("fallback_timeout_ms", .ofNat c.pipeline.fallbackTimeout)]),
    ("retry", .object [("max_attempts", .ofNat r.maxAttempts),
      ("base_backoff_ms", .ofNat r.baseBackoff),
      ("jitter_ms", .ofNat r.jitter), ("attempt_timeout_ms", optNat r.attemptTimeout),
      ("retryable_statuses", .array (r.statuses.map .ofNat)),
      ("retry_server_errors", .bool r.serverErrors),
      ("retryable_network_codes", texts (r.codes.map (·.name))),
      ("idempotent_methods", texts r.methods)]),
    ("telemetry", .object [("service_name", .string t.serviceName),
      ("environment", .string t.environment),
      ("metrics", .object [("enabled", .bool t.metrics.enabled),
        ("listen_addr", optText t.metrics.listenAddress),
        ("duration_buckets_ms", floats t.metrics.bounds)]),
      ("logging", .object [("enabled", .bool t.logging.enabled), ("level", .string t.logging.level),
        ("format", .string t.logging.format.name), ("span_events", .bool t.logging.spanEvents),
        ("file_line_info", .bool t.logging.fileLineInfo)])])]

/-- The name of a log format in reports. -/
def formatName : Telemetry.LogFormat → String
  | .json => "Json"
  | .pretty => "Pretty"

/-- All settings of telemetry. -/
def settings (s : Telemetry.Settings) : Json :=
  let m := s.metrics
  let l := s.logging
  .object [("service_name", .string s.serviceName), ("environment", .string s.environment),
    ("metrics", .object [("enabled", .bool m.enabled), ("listen_addr", optText m.listenAddress),
      ("service_name", .string m.serviceName), ("buckets", floats m.bounds)]),
    ("logging", .object [("enabled", .bool l.enabled), ("level", .string l.level),
      ("format", .string (formatName l.format)), ("span_events", .bool l.spanEvents),
      ("file_line_info", .bool l.fileLineInfo), ("service_name", .string l.serviceName)])]

end Ingress.Report
