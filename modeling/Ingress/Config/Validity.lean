import Ingress.Config.Basic
import Ingress.Http.Address
import Ingress.Http.Text

/-!
# Valid configurations

A service starts only with settings that make sense. They are looked at in a fixed order, and the
first one that makes none is named.
-/

namespace Ingress.Config

/-- A setting that makes no sense. -/
inductive Invalid
  | noDefaultTimeout
  | noFallbackTimeout
  | noAttempts
  | noBackoff
  | noAttemptTimeout
  | status (status : Nat)
  | method (name : String)
  | listenAddress (address : String)
  | noBounds
deriving DecidableEq

namespace Invalid

/-- The path of the setting. -/
def field : Invalid → String
  | noDefaultTimeout => "pipeline.default_timeout_ms"
  | noFallbackTimeout => "pipeline.fallback_timeout_ms"
  | noAttempts => "retry.max_attempts"
  | noBackoff => "retry.base_backoff_ms"
  | noAttemptTimeout => "retry.attempt_timeout_ms"
  | status _ => "retry.retryable_statuses"
  | method _ => "retry.idempotent_methods"
  | listenAddress _ => "telemetry.metrics.listen_addr"
  | noBounds => "telemetry.metrics.duration_buckets_ms"

/-- What is wrong with it. -/
def reason : Invalid → String
  | noDefaultTimeout => "must be greater than 0"
  | noFallbackTimeout => "must be greater than 0"
  | noAttempts => "must be at least 1"
  | noBackoff => "must be greater than 0"
  | noAttemptTimeout => "must be greater than 0"
  | status s => toString s ++ " is not an HTTP status"
  | method name => "invalid HTTP method: " ++ name
  | listenAddress address => "invalid socket address: " ++ address
  | noBounds => "must not be empty"

/-- Both in one sentence. -/
def message (i : Invalid) : String := "`" ++ i.field ++ "` " ++ i.reason

end Invalid

/-- Refuses a setting. -/
def refuse (wrong : Bool) (why : Invalid) : Except Invalid Unit :=
  if wrong then .error why else .ok ()

/-- The methods that are retried without being asked, in capitals. -/
def methods? (r : Retry) : Except Invalid (List String) :=
  r.methods.mapM fun name =>
    let method := Text.upperAscii name
    if Http.isMethod method then .ok method else .error (.method name)

/-- The retry policy. -/
def policy? (r : Retry) : Except Invalid Ingress.Retry.Policy := do
  let methods ← methods? r
  let base := { Ingress.Retry.Policy.standard with
    base := Duration.ofMillis r.baseBackoff
    jitter := Duration.ofMillis r.jitter
    attemptTimeout := r.attemptTimeout.map Duration.ofMillis
    codes := r.codes
    statuses := r.statuses
    serverErrors := r.serverErrors
    methods }
  pure (base.withMaxAttempts r.maxAttempts)

/-- Refuses metrics that cannot be kept or served. Metrics that are off may have any settings. -/
def checkMetrics (m : Metrics) : Except Invalid Unit :=
  if m.enabled then do
    match m.listenAddress with
    | some address => refuse (!Http.Address.isSocketAddress address) (.listenAddress address)
    | none => pure ()
    refuse m.bounds.isEmpty .noBounds
  else .ok ()

/-- Whether a configuration makes sense, or the first setting that makes none. -/
def validate (c : Config) : Except Invalid Unit := do
  refuse (c.pipeline.defaultTimeout = some 0) .noDefaultTimeout
  refuse (c.pipeline.fallbackTimeout = 0) .noFallbackTimeout
  refuse (c.retry.maxAttempts = 0) .noAttempts
  refuse (c.retry.baseBackoff = 0) .noBackoff
  refuse (c.retry.attemptTimeout = some 0) .noAttemptTimeout
  match c.retry.statuses.find? fun s => s < 100 ∨ 599 < s with
  | some s => throw (.status s)
  | none => pure ()
  let _ ← policy? c.retry
  checkMetrics c.telemetry.metrics

end Ingress.Config
