import Ingress.Config.Basic
import Ingress.Config.Environment
import Ingress.Decimal.Reader
import Ingress.Text.Pieces

/-!
# Settings from the environment

Each setting has a variable of its own: the chosen first word and the words of its path, with two
underscores between them. What a variable says depends on its value alone, so that the order of the
variables does not matter.
-/

namespace Ingress.Config

/-- A setting that a variable can change. -/
inductive Setting
  | defaultTimeout
  | fallbackTimeout
  | maxAttempts
  | baseBackoff
  | jitter
  | attemptTimeout
  | statuses
  | serverErrors
  | codes
  | methods
  | serviceName
  | environment
  | metricsEnabled
  | listenAddress
  | bounds
  | loggingEnabled
  | level
  | format
  | spanEvents
  | fileLineInfo
deriving DecidableEq

namespace Setting

/-- All settings. -/
def all : List Setting :=
  [defaultTimeout, fallbackTimeout, maxAttempts, baseBackoff, jitter, attemptTimeout, statuses,
    serverErrors, codes, methods, serviceName, environment, metricsEnabled, listenAddress, bounds,
    loggingEnabled, level, format, spanEvents, fileLineInfo]

/-- The words of a setting's path. -/
def path : Setting → List String
  | defaultTimeout => ["PIPELINE", "DEFAULT_TIMEOUT_MS"]
  | fallbackTimeout => ["PIPELINE", "FALLBACK_TIMEOUT_MS"]
  | maxAttempts => ["RETRY", "MAX_ATTEMPTS"]
  | baseBackoff => ["RETRY", "BASE_BACKOFF_MS"]
  | jitter => ["RETRY", "JITTER_MS"]
  | attemptTimeout => ["RETRY", "ATTEMPT_TIMEOUT_MS"]
  | statuses => ["RETRY", "RETRYABLE_STATUSES"]
  | serverErrors => ["RETRY", "RETRY_SERVER_ERRORS"]
  | codes => ["RETRY", "RETRYABLE_NETWORK_CODES"]
  | methods => ["RETRY", "IDEMPOTENT_METHODS"]
  | serviceName => ["TELEMETRY", "SERVICE_NAME"]
  | environment => ["TELEMETRY", "ENVIRONMENT"]
  | metricsEnabled => ["TELEMETRY", "METRICS", "ENABLED"]
  | listenAddress => ["TELEMETRY", "METRICS", "LISTEN_ADDR"]
  | bounds => ["TELEMETRY", "METRICS", "DURATION_BUCKETS_MS"]
  | loggingEnabled => ["TELEMETRY", "LOGGING", "ENABLED"]
  | level => ["TELEMETRY", "LOGGING", "LEVEL"]
  | format => ["TELEMETRY", "LOGGING", "FORMAT"]
  | spanEvents => ["TELEMETRY", "LOGGING", "SPAN_EVENTS"]
  | fileLineInfo => ["TELEMETRY", "LOGGING", "FILE_LINE_INFO"]

/-- The setting of a path. -/
def ofPath? (path : List String) : Option Setting := all.find? fun s => s.path = path

/-- A truth value, or why the text is none. -/
def flag (value : String) : Except String Bool :=
  let word := Text.lowerAscii (Text.trim value)
  if ["1", "true", "yes", "on"].contains word then .ok true
  else if ["0", "false", "no", "off"].contains word then .ok false
  else .error "expected a boolean"

/-- What is read, or that the text is no number. -/
def orNoNumber (value : String) (read : Option α) : Except String α :=
  match read with
  | some a => .ok a
  | none => .error ("`" ++ value ++ "` is not a number")

/-- A whole number below a bound. -/
def number (bound : Nat) (value : String) : Except String Nat :=
  orNoNumber value (Text.readNatBelow? bound (Text.trim value))

/-- A floating point number. -/
def float (value : String) : Except String Float :=
  orNoNumber value (Decimal.read? (Text.trim value))

/-- A number of milliseconds, or none. -/
def optionalMillis (value : String) : Except String (Option Nat) :=
  let value := Text.trim value
  if value = "" ∨ Text.sameWord value "none" then .ok none
  else do
    let n ← number UInt64.size value
    pure (some n)

/-- The items of a list with commas between them; empty ones do not count. -/
def items (value : String) : List String :=
  ((Text.pieces ',' value.toList).map fun cs => Text.trim (String.ofList cs)).filter (· ≠ "")

/-- A list of items. -/
def list (item : String → Except String α) (value : String) : Except String (List α) :=
  (items value).mapM item

/-- A network code. -/
def code (value : String) : Except String Downstream.NetworkCode :=
  match Downstream.NetworkCode.ofName? value with
  | some c => .ok c
  | none => .error (Downstream.NetworkCode.unknownMessage value)

/-- A log format. -/
def logFormat (value : String) : Except String Ingress.Telemetry.LogFormat :=
  if Text.sameWord value "json" then .ok .json
  else if Text.sameWord value "pretty" then .ok .pretty
  else .error "expected json or pretty"

/-- Changes the limits of requests. -/
def inPipeline (f : Pipeline → Pipeline) (c : Config) : Config :=
  { c with pipeline := f c.pipeline }

/-- Changes the rules of retrying. -/
def inRetry (f : Retry → Retry) (c : Config) : Config := { c with retry := f c.retry }

/-- Changes what a service reports. -/
def inTelemetry (f : Telemetry → Telemetry) (c : Config) : Config :=
  { c with telemetry := f c.telemetry }

/-- Changes the metrics. -/
def inMetrics (f : Metrics → Metrics) : Config → Config :=
  inTelemetry fun t => { t with metrics := f t.metrics }

/-- Changes the log. -/
def inLogging (f : Logging → Logging) : Config → Config :=
  inTelemetry fun t => { t with logging := f t.logging }

/-- The change that a value makes, or why it makes none. -/
def change (s : Setting) (value : String) : Except String (Config → Config) := do
  match s with
  | defaultTimeout =>
    let n ← optionalMillis value
    pure (inPipeline fun p => { p with defaultTimeout := n })
  | fallbackTimeout =>
    let n ← number UInt64.size value
    pure (inPipeline fun p => { p with fallbackTimeout := n })
  | maxAttempts =>
    let n ← number UInt32.size value
    pure (inRetry fun r => { r with maxAttempts := n })
  | baseBackoff =>
    let n ← number UInt64.size value
    pure (inRetry fun r => { r with baseBackoff := n })
  | jitter =>
    let n ← number UInt64.size value
    pure (inRetry fun r => { r with jitter := n })
  | attemptTimeout =>
    let n ← optionalMillis value
    pure (inRetry fun r => { r with attemptTimeout := n })
  | statuses =>
    let l ← list (number UInt16.size) value
    pure (inRetry fun r => { r with statuses := l })
  | serverErrors =>
    let b ← flag value
    pure (inRetry fun r => { r with serverErrors := b })
  | codes =>
    let l ← list code value
    pure (inRetry fun r => { r with codes := l })
  | methods =>
    pure (inRetry fun r => { r with methods := (items value).map Text.upperAscii })
  | serviceName => pure (inTelemetry fun t => { t with serviceName := value })
  | environment => pure (inTelemetry fun t => { t with environment := value })
  | metricsEnabled =>
    let b ← flag value
    pure (inMetrics fun m => { m with enabled := b })
  | listenAddress =>
    let address := Text.trim value
    pure (inMetrics fun m =>
      { m with listenAddress := if address = "" then none else some address })
  | bounds =>
    let l ← list float value
    pure (inMetrics fun m => { m with bounds := l })
  | loggingEnabled =>
    let b ← flag value
    pure (inLogging fun l => { l with enabled := b })
  | level => pure (inLogging fun l => { l with level := value })
  | format =>
    let f ← logFormat value
    pure (inLogging fun l => { l with format := f })
  | spanEvents =>
    let b ← flag value
    pure (inLogging fun l => { l with spanEvents := b })
  | fileLineInfo =>
    let b ← flag value
    pure (inLogging fun l => { l with fileLineInfo := b })

end Setting

/-- The words of a path with two underscores between them. -/
def pathWords : List Char → List String
  | cs => (go cs).map String.ofList
where
  /-- The characters of the words. -/
  go : List Char → List (List Char)
    | [] => [[]]
    | '_' :: '_' :: rest => [] :: go rest
    | c :: rest =>
      match go rest with
      | [] => []
      | word :: more => (c :: word) :: more

/-- What follows the characters at the front. -/
def afterFront? (front cs : List Char) : Option (List Char) :=
  if front.isPrefixOf cs then some (cs.drop front.length) else none

/-- The setting that a variable stands for, under some first word. -/
def settingOf? (first : String) (variable_ : String) : Option Setting := do
  let rest ← afterFront? first.toList variable_.toList
  let rest ← afterFront? ['_', '_'] rest
  Setting.ofPath? (pathWords rest)

/-- A variable whose value makes no sense. -/
structure BadOverride where
  variable_ : String
  reason : String
deriving DecidableEq

/-- The sentence for such a variable. -/
def BadOverride.message (b : BadOverride) : String :=
  "environment override " ++ b.variable_ ++ ": " ++ b.reason

/-- Applies one variable. -/
def override_ (first : String) (c : Config) (v : String × String) : Except BadOverride Config :=
  match settingOf? first v.1 with
  | none => .ok c
  | some setting =>
    match setting.change v.2 with
    | .ok f => .ok (f c)
    | .error reason => .error ⟨v.1, reason⟩

/-- Applies all variables. -/
def overrides (first : String) (e : Environment) (c : Config) : Except BadOverride Config :=
  e.foldlM (override_ first) c

end Ingress.Config
