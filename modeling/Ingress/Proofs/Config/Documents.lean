import Ingress.Config.Decoding
import Ingress.Proofs.Config.Settings
import Ingress.Proofs.Json.Parts

/-!
# What a document says

A document has a place for each setting, which is named like the setting's variable. A configuration
that is read from a document has there what the document says, and the standard value where it says
nothing; no other configuration has a part in it.
-/

namespace Ingress.Config

open Json Fallible

namespace Setting

/-- The names on the way to a setting in a document. -/
def place : Setting → List String
  | defaultTimeout => ["pipeline", "default_timeout_ms"]
  | fallbackTimeout => ["pipeline", "fallback_timeout_ms"]
  | maxAttempts => ["retry", "max_attempts"]
  | baseBackoff => ["retry", "base_backoff_ms"]
  | jitter => ["retry", "jitter_ms"]
  | attemptTimeout => ["retry", "attempt_timeout_ms"]
  | statuses => ["retry", "retryable_statuses"]
  | serverErrors => ["retry", "retry_server_errors"]
  | codes => ["retry", "retryable_network_codes"]
  | methods => ["retry", "idempotent_methods"]
  | serviceName => ["telemetry", "service_name"]
  | environment => ["telemetry", "environment"]
  | metricsEnabled => ["telemetry", "metrics", "enabled"]
  | listenAddress => ["telemetry", "metrics", "listen_addr"]
  | bounds => ["telemetry", "metrics", "duration_buckets_ms"]
  | loggingEnabled => ["telemetry", "logging", "enabled"]
  | level => ["telemetry", "logging", "level"]
  | format => ["telemetry", "logging", "format"]
  | spanEvents => ["telemetry", "logging", "span_events"]
  | fileLineInfo => ["telemetry", "logging", "file_line_info"]

/-- The names that the section at a place may hold, in the order of a section written as a list. -/
def names : List String → List String
  | [] => ["pipeline", "retry", "telemetry"]
  | ["pipeline"] => ["default_timeout_ms", "fallback_timeout_ms"]
  | ["retry"] => ["max_attempts", "base_backoff_ms", "jitter_ms", "attempt_timeout_ms",
    "retryable_statuses", "retry_server_errors", "retryable_network_codes", "idempotent_methods"]
  | ["telemetry"] => ["service_name", "environment", "metrics", "logging"]
  | ["telemetry", "metrics"] => ["enabled", "listen_addr", "duration_buckets_ms"]
  | ["telemetry", "logging"] => ["enabled", "level", "format", "span_events", "file_line_info"]
  | _ => []

/-- What stands at a place in the section `above`, if that is there. -/
def saidIn (above : List String) (part : Option Reading) : List String → Option Reading
  | [] => part
  | name :: rest => saidIn (above ++ [name]) (part.bind (·.part? (names above) name)) rest

/-- What a document says about a setting. -/
def said? (s : Setting) (r : Reading) : Option Reading := saidIn [] (some r) s.place

/-- Reads a setting. -/
def decoder (f : Format) : (s : Setting) → Decoder s.Content
  | defaultTimeout | attemptTimeout => Decoder.optional millis
  | fallbackTimeout | baseBackoff | jitter => millis
  | maxAttempts => Decoder.unsigned 32 "u32"
  | statuses => Decoder.list statusNumber
  | serverErrors | metricsEnabled | loggingEnabled | spanEvents | fileLineInfo => Decoder.bool
  | codes => Decoder.list (Config.code f)
  | methods => Decoder.list Decoder.text
  | serviceName | environment | level => Decoder.text
  | listenAddress => Decoder.optional Decoder.text
  | bounds => Decoder.list Decoder.float
  | format => Config.logFormat f

end Setting

theorem keeps_setting (name : String) (d : Decoder α) : (setting name d).Keeps := keeps_of_fits rfl

section

variable {f : Format} {r : Reading}

/-- Each limit is decoded from the part of a section that stands for it. -/
structure Pipeline.Given (part? : String → Option Reading) (p : Pipeline) : Prop where
  defaultTimeout : (Decoder.optional millis).Gives standard.defaultTimeout
    (part? "default_timeout_ms") p.defaultTimeout
  fallbackTimeout : millis.Gives standard.fallbackTimeout
    (part? "fallback_timeout_ms") p.fallbackTimeout

theorem Pipeline.given {p : Pipeline} (read : Pipeline.decode f r = .ok p) :
    Pipeline.Given (r.part? (Setting.names ["pipeline"])) p := by
  obtain ⟨found, taken, read⟩ := bind_eq_ok_iff.1 read
  obtain ⟨_, defaultTimeout, read⟩ := bind_eq_ok_iff.1 read
  obtain ⟨_, fallbackTimeout, done⟩ := bind_eq_ok_iff.1 read
  cases done
  have told := Shape.gives_of_decode (Setting.names ["pipeline"]) rfl
    (by simp [Format.section_, keeps_setting]) taken
  exact ⟨told (by decide) defaultTimeout, told (by decide) fallbackTimeout⟩

/-- Each rule of retrying is decoded from the part of a section that stands for it. -/
structure Retry.Given (f : Format) (part? : String → Option Reading) (c : Retry) : Prop where
  maxAttempts : (Decoder.unsigned 32 "u32").Gives standard.maxAttempts
    (part? "max_attempts") c.maxAttempts
  baseBackoff : millis.Gives standard.baseBackoff (part? "base_backoff_ms") c.baseBackoff
  jitter : millis.Gives standard.jitter (part? "jitter_ms") c.jitter
  attemptTimeout : (Decoder.optional millis).Gives standard.attemptTimeout
    (part? "attempt_timeout_ms") c.attemptTimeout
  statuses : (Decoder.list statusNumber).Gives standard.statuses
    (part? "retryable_statuses") c.statuses
  serverErrors : Decoder.bool.Gives standard.serverErrors
    (part? "retry_server_errors") c.serverErrors
  codes : (Decoder.list (code f)).Gives standard.codes (part? "retryable_network_codes") c.codes
  methods : (Decoder.list Decoder.text).Gives standard.methods
    (part? "idempotent_methods") c.methods

theorem Retry.given {c : Retry} (read : Retry.decode f r = .ok c) :
    Retry.Given f (r.part? (Setting.names ["retry"])) c := by
  obtain ⟨found, taken, read⟩ := bind_eq_ok_iff.1 read
  obtain ⟨_, maxAttempts, read⟩ := bind_eq_ok_iff.1 read
  obtain ⟨_, baseBackoff, read⟩ := bind_eq_ok_iff.1 read
  obtain ⟨_, jitter, read⟩ := bind_eq_ok_iff.1 read
  obtain ⟨_, attemptTimeout, read⟩ := bind_eq_ok_iff.1 read
  obtain ⟨_, statuses, read⟩ := bind_eq_ok_iff.1 read
  obtain ⟨_, serverErrors, read⟩ := bind_eq_ok_iff.1 read
  obtain ⟨_, codes, read⟩ := bind_eq_ok_iff.1 read
  obtain ⟨_, methods, done⟩ := bind_eq_ok_iff.1 read
  cases done
  have told := Shape.gives_of_decode (Setting.names ["retry"]) rfl
    (by simp [Format.section_, keeps_setting]) taken
  exact ⟨told (by decide) maxAttempts, told (by decide) baseBackoff, told (by decide) jitter,
    told (by decide) attemptTimeout, told (by decide) statuses, told (by decide) serverErrors,
    told (by decide) codes, told (by decide) methods⟩

/-- Each setting of the metrics is decoded from the part of a section that stands for it. -/
structure Metrics.Given (part? : String → Option Reading) (m : Metrics) : Prop where
  enabled : Decoder.bool.Gives standard.enabled (part? "enabled") m.enabled
  listenAddress : (Decoder.optional Decoder.text).Gives standard.listenAddress
    (part? "listen_addr") m.listenAddress
  bounds : (Decoder.list Decoder.float).Gives standard.bounds (part? "duration_buckets_ms") m.bounds

theorem Metrics.given {m : Metrics} (read : Metrics.decode f r = .ok m) :
    Metrics.Given (r.part? (Setting.names ["telemetry", "metrics"])) m := by
  obtain ⟨found, taken, read⟩ := bind_eq_ok_iff.1 read
  obtain ⟨_, enabled, read⟩ := bind_eq_ok_iff.1 read
  obtain ⟨_, listenAddress, read⟩ := bind_eq_ok_iff.1 read
  obtain ⟨_, bounds, done⟩ := bind_eq_ok_iff.1 read
  cases done
  have told := Shape.gives_of_decode (Setting.names ["telemetry", "metrics"]) rfl
    (by simp [Format.section_, keeps_setting]) taken
  exact ⟨told (by decide) enabled, told (by decide) listenAddress, told (by decide) bounds⟩

/-- Each setting of the log is decoded from the part of a section that stands for it. -/
structure Logging.Given (f : Format) (part? : String → Option Reading) (l : Logging) : Prop where
  enabled : Decoder.bool.Gives standard.enabled (part? "enabled") l.enabled
  level : Decoder.text.Gives standard.level (part? "level") l.level
  format : (logFormat f).Gives standard.format (part? "format") l.format
  spanEvents : Decoder.bool.Gives standard.spanEvents (part? "span_events") l.spanEvents
  fileLineInfo : Decoder.bool.Gives standard.fileLineInfo (part? "file_line_info") l.fileLineInfo

theorem Logging.given {l : Logging} (read : Logging.decode f r = .ok l) :
    Logging.Given f (r.part? (Setting.names ["telemetry", "logging"])) l := by
  obtain ⟨found, taken, read⟩ := bind_eq_ok_iff.1 read
  obtain ⟨_, enabled, read⟩ := bind_eq_ok_iff.1 read
  obtain ⟨_, level, read⟩ := bind_eq_ok_iff.1 read
  obtain ⟨_, format, read⟩ := bind_eq_ok_iff.1 read
  obtain ⟨_, spanEvents, read⟩ := bind_eq_ok_iff.1 read
  obtain ⟨_, fileLineInfo, done⟩ := bind_eq_ok_iff.1 read
  cases done
  have told := Shape.gives_of_decode (Setting.names ["telemetry", "logging"]) rfl
    (by simp [Format.section_, keeps_setting]) taken
  exact ⟨told (by decide) enabled, told (by decide) level, told (by decide) format,
    told (by decide) spanEvents, told (by decide) fileLineInfo⟩

/-- All that a service reports is decoded from the parts of a section that stand for it. -/
structure Telemetry.Given (f : Format) (part? : String → Option Reading) (t : Telemetry) :
    Prop where
  serviceName : Decoder.text.Gives standard.serviceName (part? "service_name") t.serviceName
  environment : Decoder.text.Gives standard.environment (part? "environment") t.environment
  metrics : Decoder.Gives (Metrics.decode f) standard.metrics (part? "metrics") t.metrics
  logging : Decoder.Gives (Logging.decode f) standard.logging (part? "logging") t.logging

theorem Telemetry.given {t : Telemetry} (read : Telemetry.decode f r = .ok t) :
    Telemetry.Given f (r.part? (Setting.names ["telemetry"])) t := by
  obtain ⟨found, taken, read⟩ := bind_eq_ok_iff.1 read
  obtain ⟨_, serviceName, read⟩ := bind_eq_ok_iff.1 read
  obtain ⟨_, environment, read⟩ := bind_eq_ok_iff.1 read
  obtain ⟨_, metrics, read⟩ := bind_eq_ok_iff.1 read
  obtain ⟨_, logging, done⟩ := bind_eq_ok_iff.1 read
  cases done
  have told := Shape.gives_of_decode (Setting.names ["telemetry"]) rfl
    (by simp [Format.section_, keeps_setting]) taken
  exact ⟨told (by decide) serviceName, told (by decide) environment, told (by decide) metrics,
    told (by decide) logging⟩

/-- Each section of a configuration is decoded from the part of a document that stands for it. -/
structure Given (f : Format) (part? : String → Option Reading) (c : Config) : Prop where
  pipeline : Decoder.Gives (Pipeline.decode f) standard.pipeline (part? "pipeline") c.pipeline
  retry : Decoder.Gives (Retry.decode f) standard.retry (part? "retry") c.retry
  telemetry : Decoder.Gives (Telemetry.decode f) standard.telemetry (part? "telemetry") c.telemetry

theorem given {c : Config} (read : decode f r = .ok c) :
    Given f (r.part? (Setting.names [])) c := by
  obtain ⟨found, taken, read⟩ := bind_eq_ok_iff.1 read
  obtain ⟨_, pipeline, read⟩ := bind_eq_ok_iff.1 read
  obtain ⟨_, retry, read⟩ := bind_eq_ok_iff.1 read
  obtain ⟨_, telemetry, done⟩ := bind_eq_ok_iff.1 read
  cases done
  have told := Shape.gives_of_decode (Setting.names []) rfl
    (by simp [Format.section_, keeps_setting]) taken
  exact ⟨told (by decide) pipeline, told (by decide) retry, told (by decide) telemetry⟩

/-- Each setting of a configuration that is read is what the document says about it, and else the
standard one. -/
theorem gives_said {c : Config} (read : decode f r = .ok c) (s : Setting) :
    (s.decoder f).Gives (s.content standard) (s.said? r) (s.content c) := by
  obtain ⟨pipeline, retry, telemetry⟩ := given read
  -- The metrics and the log are sections of a section.
  have metrics := telemetry.within fun _ read => (Telemetry.given read).metrics
  have logging := telemetry.within fun _ read => (Telemetry.given read).logging
  cases s with
  | defaultTimeout => exact pipeline.within fun _ read => (Pipeline.given read).defaultTimeout
  | fallbackTimeout => exact pipeline.within fun _ read => (Pipeline.given read).fallbackTimeout
  | maxAttempts => exact retry.within fun _ read => (Retry.given read).maxAttempts
  | baseBackoff => exact retry.within fun _ read => (Retry.given read).baseBackoff
  | jitter => exact retry.within fun _ read => (Retry.given read).jitter
  | attemptTimeout => exact retry.within fun _ read => (Retry.given read).attemptTimeout
  | statuses => exact retry.within fun _ read => (Retry.given read).statuses
  | serverErrors => exact retry.within fun _ read => (Retry.given read).serverErrors
  | codes => exact retry.within fun _ read => (Retry.given read).codes
  | methods => exact retry.within fun _ read => (Retry.given read).methods
  | serviceName => exact telemetry.within fun _ read => (Telemetry.given read).serviceName
  | environment => exact telemetry.within fun _ read => (Telemetry.given read).environment
  | metricsEnabled => exact metrics.within fun _ read => (Metrics.given read).enabled
  | listenAddress => exact metrics.within fun _ read => (Metrics.given read).listenAddress
  | bounds => exact metrics.within fun _ read => (Metrics.given read).bounds
  | loggingEnabled => exact logging.within fun _ read => (Logging.given read).enabled
  | level => exact logging.within fun _ read => (Logging.given read).level
  | format => exact logging.within fun _ read => (Logging.given read).format
  | spanEvents => exact logging.within fun _ read => (Logging.given read).spanEvents
  | fileLineInfo => exact logging.within fun _ read => (Logging.given read).fileLineInfo

end

/-- The tree of a text. -/
def Format.tree? (f : Format) (text : String) : Option Reading :=
  match f with
  | .toml => Toml.ofText? text
  | .json =>
    let (r, clean) := Reading.ofGlyphs (Text.glyphs text)
    if clean then some r else none

/-- The configuration is the one that a text says: each setting is what stands at its place, and the
standard one where nothing does. -/
def Format.Tells (f : Format) (text : String) (c : Config) : Prop :=
  ∃ r, f.tree? text = some r ∧
    ∀ s : Setting, (s.decoder f).Gives (s.content standard) (s.said? r) (s.content c)

theorem Format.tells_of_read {f : Format} {text : String} {c : Config}
    (read : f.read text = .ok c) : f.Tells text c := by
  cases f with
  | toml =>
    rw [Format.read, Toml.decodeText] at read
    split at read
    · next r tree => exact ⟨r, tree, gives_said read⟩
    · cases read
  | json =>
    obtain ⟨a, taken, done⟩ := bind_eq_ok_iff.1 read
    split at done
    · next clean =>
      cases done
      exact ⟨_, if_pos clean, gives_said taken⟩
    · cases done

/-- A text says one configuration at most. -/
theorem Format.Tells.unique {f : Format} {text : String} {c c' : Config} (told : f.Tells text c)
    (told' : f.Tells text c') : c = c' := by
  obtain ⟨r, tree, each⟩ := told
  obtain ⟨r', tree', each'⟩ := told'
  cases tree.symm.trans tree'
  exact Setting.eq_of_content fun s => (each s).unique (each' s)

end Ingress.Config
