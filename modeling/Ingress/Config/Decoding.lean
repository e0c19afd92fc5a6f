import Ingress.Config.Basic
import Ingress.Toml.Document

/-!
# Written configurations

A configuration is written as TOML or as JSON. Sections and settings that are left out have their
standard values, and names that are no settings are refused.
-/

namespace Ingress.Config

open Json

/-- The formats of configuration files. -/
inductive Format
  | toml
  | json
deriving DecidableEq

namespace Format

/-- The format of a name in any case. -/
def ofName? (name : String) : Option Format :=
  if Text.sameWord name "toml" then some .toml
  else if Text.sameWord name "json" then some .json
  else none

/-- What items beyond the last setting of a section written as a list mean. -/
def surplus : Format → Surplus
  | .toml => .ignored
  | .json => .malformed

/-- The kind of a value where a table was wanted. -/
def kindName : Reading → String
  | .text _ => "string"
  | .number (.int _) => "integer"
  | .number (.float _) => "float"
  | .bool _ => "boolean"
  | _ => "datetime"

/-- Refuses a value in a sentence of its own. -/
def say (message : String) : Except Refusal α := .error (.unfit (.other message))

/-- A choice by name. -/
def choice (names : List (String × α)) : Format → Decoder α
  | .json => Decoder.choice names
  | .toml => fun
    | .text s => Decoder.named names s
    | .record [(some name, r)] => do
      let a ← Decoder.named names name
      match r with
      | .record [] | .list [] => .ok a
      | .series _ => say "expected empty array"
      | .record _ | .list _ => say "expected empty table"
      | r => say ("expected table, found " ++ kindName r)
    | .record [] => say "wanted exactly 1 element, found 0 elements"
    | .record _ => say "wanted exactly 1 element, more than 1 element"
    | _ => say "wanted string or table"

end Format

/-- A setting that may be left out. -/
def setting (name : String) (d : Decoder α) : FieldShape Reading := ⟨name, Decoder.fits d, true⟩

/-- A section with its settings. -/
def Format.section_ (f : Format) (title : String) (fields : List (FieldShape Reading)) :
    Shape Reading :=
  ⟨"struct " ++ title, fields, true, f.surplus⟩

/-- A number of milliseconds. -/
def millis : Decoder Nat := Decoder.unsigned 64 "u64"

/-- Reads the limits of requests. -/
def Pipeline.decode (f : Format) : Decoder Pipeline := fun r => do
  let found ← (f.section_ "PipelineSection"
    [setting "default_timeout_ms" (Decoder.optional millis),
      setting "fallback_timeout_ms" millis]).decode r
  let s := Pipeline.standard
  pure ⟨← memberD (Decoder.optional millis) "default_timeout_ms" s.defaultTimeout found,
    ← memberD millis "fallback_timeout_ms" s.fallbackTimeout found⟩

/-- A network code. -/
def code (f : Format) : Decoder Downstream.NetworkCode :=
  f.choice (Downstream.NetworkCode.all.map fun c => (c.name, c))

/-- A status. -/
def statusNumber : Decoder Nat := Decoder.unsigned 16 "u16"

/-- Reads the rules of retrying. -/
def Retry.decode (f : Format) : Decoder Retry := fun r => do
  let attempts := Decoder.unsigned 32 "u32"
  let found ← (f.section_ "RetrySection"
    [setting "max_attempts" attempts, setting "base_backoff_ms" millis, setting "jitter_ms" millis,
      setting "attempt_timeout_ms" (Decoder.optional millis),
      setting "retryable_statuses" (Decoder.list statusNumber),
      setting "retry_server_errors" Decoder.bool,
      setting "retryable_network_codes" (Decoder.list (code f)),
      setting "idempotent_methods" (Decoder.list Decoder.text)]).decode r
  let s := Retry.standard
  pure ⟨← memberD attempts "max_attempts" s.maxAttempts found,
    ← memberD millis "base_backoff_ms" s.baseBackoff found,
    ← memberD millis "jitter_ms" s.jitter found,
    ← memberD (Decoder.optional millis) "attempt_timeout_ms" s.attemptTimeout found,
    ← memberD (Decoder.list statusNumber) "retryable_statuses" s.statuses found,
    ← memberD Decoder.bool "retry_server_errors" s.serverErrors found,
    ← memberD (Decoder.list (code f)) "retryable_network_codes" s.codes found,
    ← memberD (Decoder.list Decoder.text) "idempotent_methods" s.methods found⟩

/-- Reads the metrics. -/
def Metrics.decode (f : Format) : Decoder Metrics := fun r => do
  let found ← (f.section_ "MetricsSection"
    [setting "enabled" Decoder.bool, setting "listen_addr" (Decoder.optional Decoder.text),
      setting "duration_buckets_ms" (Decoder.list Decoder.float)]).decode r
  let s := Metrics.standard
  pure ⟨← memberD Decoder.bool "enabled" s.enabled found,
    ← memberD (Decoder.optional Decoder.text) "listen_addr" s.listenAddress found,
    ← memberD (Decoder.list Decoder.float) "duration_buckets_ms" s.bounds found⟩

/-- A log format. -/
def logFormat (f : Format) : Decoder Ingress.Telemetry.LogFormat :=
  f.choice [("json", .json), ("pretty", .pretty)]

/-- Reads the log. -/
def Logging.decode (f : Format) : Decoder Logging := fun r => do
  let found ← (f.section_ "LoggingSection"
    [setting "enabled" Decoder.bool, setting "level" Decoder.text, setting "format" (logFormat f),
      setting "span_events" Decoder.bool, setting "file_line_info" Decoder.bool]).decode r
  let s := Logging.standard
  pure ⟨← memberD Decoder.bool "enabled" s.enabled found,
    ← memberD Decoder.text "level" s.level found,
    ← memberD (logFormat f) "format" s.format found,
    ← memberD Decoder.bool "span_events" s.spanEvents found,
    ← memberD Decoder.bool "file_line_info" s.fileLineInfo found⟩

/-- Reads what a service reports. -/
def Telemetry.decode (f : Format) : Decoder Telemetry := fun r => do
  let found ← (f.section_ "TelemetrySection"
    [setting "service_name" Decoder.text, setting "environment" Decoder.text,
      setting "metrics" (Metrics.decode f), setting "logging" (Logging.decode f)]).decode r
  let s := Telemetry.standard
  pure ⟨← memberD Decoder.text "service_name" s.serviceName found,
    ← memberD Decoder.text "environment" s.environment found,
    ← memberD (Metrics.decode f) "metrics" s.metrics found,
    ← memberD (Logging.decode f) "logging" s.logging found⟩

/-- Reads a configuration. -/
def decode (f : Format) : Decoder Config := fun r => do
  let found ← (f.section_ "VigilConfig"
    [setting "pipeline" (Pipeline.decode f), setting "retry" (Retry.decode f),
      setting "telemetry" (Telemetry.decode f)]).decode r
  let s := Config.standard
  pure ⟨← memberD (Pipeline.decode f) "pipeline" s.pipeline found,
    ← memberD (Retry.decode f) "retry" s.retry found,
    ← memberD (Telemetry.decode f) "telemetry" s.telemetry found⟩

/-- The words of a mismatch in a format. -/
def Format.wording : Format → Wording
  | .toml => Toml.wording
  | .json => Wording.json

/-- Reads a text as a configuration. -/
def Format.read (f : Format) (text : String) : Except Refusal Config :=
  match f with
  | .toml => Toml.decodeText (decode f) text
  | .json => decodeText (decode f) text

end Ingress.Config
