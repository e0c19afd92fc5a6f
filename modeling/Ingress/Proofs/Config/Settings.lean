import Ingress.Config.Override
import Ingress.Proofs.Fallible

/-!
# Settings

A configuration is made up of its settings: it is known when the content of each is. What a variable
changes is the content of one setting, which it replaces, and all other settings keep theirs.
-/

namespace Ingress.Config

namespace Setting

/-- What a setting holds. -/
def Content : Setting → Type
  | defaultTimeout | attemptTimeout => Option Nat
  | fallbackTimeout | maxAttempts | baseBackoff | jitter => Nat
  | statuses => List Nat
  | serverErrors | metricsEnabled | loggingEnabled | spanEvents | fileLineInfo => Bool
  | codes => List Downstream.NetworkCode
  | methods => List String
  | serviceName | environment | level => String
  | listenAddress => Option String
  | bounds => List Float
  | format => Ingress.Telemetry.LogFormat

/-- The content of a setting in a configuration. -/
def content : (s : Setting) → Config → s.Content
  | defaultTimeout, c => c.pipeline.defaultTimeout
  | fallbackTimeout, c => c.pipeline.fallbackTimeout
  | maxAttempts, c => c.retry.maxAttempts
  | baseBackoff, c => c.retry.baseBackoff
  | jitter, c => c.retry.jitter
  | attemptTimeout, c => c.retry.attemptTimeout
  | statuses, c => c.retry.statuses
  | serverErrors, c => c.retry.serverErrors
  | codes, c => c.retry.codes
  | methods, c => c.retry.methods
  | serviceName, c => c.telemetry.serviceName
  | environment, c => c.telemetry.environment
  | metricsEnabled, c => c.telemetry.metrics.enabled
  | listenAddress, c => c.telemetry.metrics.listenAddress
  | bounds, c => c.telemetry.metrics.bounds
  | loggingEnabled, c => c.telemetry.logging.enabled
  | level, c => c.telemetry.logging.level
  | format, c => c.telemetry.logging.format
  | spanEvents, c => c.telemetry.logging.spanEvents
  | fileLineInfo, c => c.telemetry.logging.fileLineInfo

/-- The content that a text stands for, or why it stands for none. Texts and lists of methods may be
anything. -/
def read : (s : Setting) → String → Except String s.Content
  | defaultTimeout, text | attemptTimeout, text => optionalMillis text
  | fallbackTimeout, text | baseBackoff, text | jitter, text => number UInt64.size text
  | maxAttempts, text => number UInt32.size text
  | statuses, text => list (number UInt16.size) text
  | serverErrors, text | metricsEnabled, text | loggingEnabled, text | spanEvents, text
  | fileLineInfo, text => flag text
  | codes, text => list code text
  | methods, text => .ok ((items text).map Text.upperAscii)
  | serviceName, text | environment, text | level, text => .ok text
  | listenAddress, text => .ok (if Text.trim text = "" then none else some (Text.trim text))
  | bounds, text => list float text
  | format, text => logFormat text

/-- Replaces the content of a setting. -/
def put : (s : Setting) → s.Content → Config → Config
  | defaultTimeout, a => inPipeline fun p => { p with defaultTimeout := a }
  | fallbackTimeout, a => inPipeline fun p => { p with fallbackTimeout := a }
  | maxAttempts, a => inRetry fun r => { r with maxAttempts := a }
  | baseBackoff, a => inRetry fun r => { r with baseBackoff := a }
  | jitter, a => inRetry fun r => { r with jitter := a }
  | attemptTimeout, a => inRetry fun r => { r with attemptTimeout := a }
  | statuses, a => inRetry fun r => { r with statuses := a }
  | serverErrors, a => inRetry fun r => { r with serverErrors := a }
  | codes, a => inRetry fun r => { r with codes := a }
  | methods, a => inRetry fun r => { r with methods := a }
  | serviceName, a => inTelemetry fun t => { t with serviceName := a }
  | environment, a => inTelemetry fun t => { t with environment := a }
  | metricsEnabled, a => inMetrics fun m => { m with enabled := a }
  | listenAddress, a => inMetrics fun m => { m with listenAddress := a }
  | bounds, a => inMetrics fun m => { m with bounds := a }
  | loggingEnabled, a => inLogging fun l => { l with enabled := a }
  | level, a => inLogging fun l => { l with level := a }
  | format, a => inLogging fun l => { l with format := a }
  | spanEvents, a => inLogging fun l => { l with spanEvents := a }
  | fileLineInfo, a => inLogging fun l => { l with fileLineInfo := a }

theorem content_put_self (s : Setting) (a : s.Content) (c : Config) :
    s.content (s.put a c) = a := by
  cases s <;> rfl

theorem content_put_of_ne {s t : Setting} (other : s ≠ t) (a : t.Content) (c : Config) :
    s.content (t.put a c) = s.content c := by
  cases s <;> cases t <;> first | rfl | exact absurd rfl other

/-- The configuration with given contents. -/
def compose (contents : (s : Setting) → s.Content) : Config where
  pipeline := ⟨contents .defaultTimeout, contents .fallbackTimeout⟩
  retry := ⟨contents .maxAttempts, contents .baseBackoff, contents .jitter,
    contents .attemptTimeout, contents .statuses, contents .serverErrors, contents .codes,
    contents .methods⟩
  telemetry := ⟨contents .serviceName, contents .environment,
    ⟨contents .metricsEnabled, contents .listenAddress, contents .bounds⟩,
    ⟨contents .loggingEnabled, contents .level, contents .format, contents .spanEvents,
      contents .fileLineInfo⟩⟩

theorem compose_content (c : Config) : compose (fun s => s.content c) = c := rfl

/-- A configuration is known when the content of each setting is. -/
theorem eq_of_content {c c' : Config} (same : ∀ s : Setting, s.content c = s.content c') :
    c = c' := by
  rw [← compose_content c, ← compose_content c', funext same]

/-- Of two contents put into a setting the later one stays. -/
theorem put_put (s : Setting) (a b : s.Content) (c : Config) : s.put a (s.put b c) = s.put a c := by
  refine eq_of_content fun t => ?_
  by_cases same : t = s
  · subst same
    rw [content_put_self, content_put_self]
  · rw [content_put_of_ne same, content_put_of_ne same, content_put_of_ne same]

/-- Contents of two settings may be put in either order. -/
theorem put_comm {s t : Setting} (other : s ≠ t) (a : s.Content) (b : t.Content) (c : Config) :
    s.put a (t.put b c) = t.put b (s.put a c) := by
  refine eq_of_content fun u => ?_
  by_cases first : u = s
  · subst first
    rw [content_put_self, content_put_of_ne other, content_put_self]
  · rw [content_put_of_ne first]
    by_cases second : u = t
    · subst second
      rw [content_put_self, content_put_self]
    · rw [content_put_of_ne second, content_put_of_ne second, content_put_of_ne first]

/-- A value replaces the content of its setting with what it stands for, whatever that was. -/
theorem change_eq (s : Setting) (value : String) : s.change value = s.put <$> s.read value := by
  cases s
  case methods | serviceName | environment | listenAddress | level => rfl
  all_goals exact bind_pure_comp _ _

end Setting

end Ingress.Config
