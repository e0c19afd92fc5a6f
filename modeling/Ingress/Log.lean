import Ingress.Failure.Kind
import Ingress.Pipeline.Stage
import Ingress.Span.Basic
import Ingress.Text.Quoted
import Ingress.Time.Duration

/-!
# The log

What is reported while requests are served. Each report has a level, the part of the service that it
comes from, a sentence and named values.
-/

namespace Ingress.Log

/-- How important a report is, the most important one first. -/
inductive Level
  | error
  | warn
  | info
  | debug
  | trace
deriving DecidableEq

namespace Level

/-- All levels. -/
def all : List Level := [error, warn, info, debug, trace]

/-- The name of a level. -/
def name : Level → String
  | error => "ERROR"
  | warn => "WARN"
  | info => "INFO"
  | debug => "DEBUG"
  | trace => "TRACE"

/-- The place in the order of importance. -/
def rank : Level → Nat
  | error => 1
  | warn => 2
  | info => 3
  | debug => 4
  | trace => 5

end Level

/-- A named value of a report. -/
inductive Value
  | text (value : String)
  | nat (value : Nat)
  | bool (value : Bool)

/-- A value in words. -/
def Value.display : Value → String
  | .text s => s
  | .nat n => toString n
  | .bool b => toString b

/-- The status of a span as a report shows it. -/
def statusText : Span.Status → String
  | .unset => "Unset"
  | .ok => "Ok"
  | .error message => "Error \x7b message: " ++ Text.quoted message ++ " \x7d"

/-- Something worth a report. -/
inductive Event
  /-- A span was finished. -/
  | spanFinished (trace : String) (id : Span.Id) (span : Span)
  /-- A request passed from one stage to the next. -/
  | stage (from_ to_ : Pipeline.Stage)
  | inboundTraceUnreadable
  | deadlineUnset (route : String)
  | deadlineExceeded (trace route : String) (limit : Duration)
  | handlerPanicked (trace panic : String)
  | requestCancelled (trace : String) (stage : Pipeline.Stage)
  | requestFailed (trace : String) (kind : Failure.Kind) (status : Nat) (error : String)
  | requestCompleted (trace method route : String) (status : Nat)
  | callFailed (trace method url : String) (attempts : Nat)
  | callRetried (trace url : String) (attempt delay : Nat)
  | traceUnsendable (trace : String)
  | loggingStarted (service filter : String)
  | telemetryStarted (service environment : String) (metrics : Bool)
  | listenerStarted (address : String)
  | serviceAssembled (defaultTimeout : Nat) (maxAttempts : Nat)

namespace Event

/-- How important an event is. -/
def level : Event → Level
  | spanFinished .. => .debug
  | stage .. => .trace
  | inboundTraceUnreadable => .debug
  | deadlineUnset _ => .debug
  | deadlineExceeded .. => .warn
  | handlerPanicked .. => .error
  | requestCancelled .. => .warn
  | requestFailed .. => .warn
  | requestCompleted .. => .info
  | callFailed .. => .debug
  | callRetried .. => .debug
  | traceUnsendable _ => .warn
  | loggingStarted .. => .debug
  | telemetryStarted .. => .info
  | listenerStarted _ => .info
  | serviceAssembled .. => .debug

/-- The part of the service that an event comes from. -/
def target : Event → String
  | spanFinished .. => "vigil::span"
  | stage .. => "vigil_middleware::pipeline"
  | inboundTraceUnreadable => "vigil_middleware::pipeline"
  | deadlineUnset _ => "vigil_middleware::pipeline"
  | deadlineExceeded .. => "vigil_middleware::deadline"
  | handlerPanicked .. => "vigil_middleware::pipeline"
  | requestCancelled .. => "vigil_middleware::pipeline"
  | requestFailed .. => "vigil_middleware::pipeline"
  | requestCompleted .. => "vigil_middleware::pipeline"
  | callFailed .. => "vigil_client::client"
  | callRetried .. => "vigil_client::client"
  | traceUnsendable _ => "vigil_client::traced"
  | loggingStarted .. => "vigil_telemetry::logging"
  | telemetryStarted .. => "vigil_telemetry"
  | listenerStarted _ => "vigil_telemetry::metrics"
  | serviceAssembled .. => "vigil::runtime"

/-- An event in one sentence. -/
def message : Event → String
  | spanFinished .. => "span finished"
  | stage .. => "pipeline state"
  | inboundTraceUnreadable => "inbound traceid is not visible ASCII; generating a new one"
  | deadlineUnset _ => "route deadline is past the clock range; leaving it unset"
  | deadlineExceeded .. => "Request deadline exceeded"
  | handlerPanicked .. => "Handler panicked"
  | requestCancelled .. => "Request cancelled before a response was produced"
  | requestFailed .. => "request failed"
  | requestCompleted .. => "request completed"
  | callFailed .. => "outbound call failed"
  | callRetried .. => "retrying outbound call"
  | traceUnsendable _ => "trace id is not a valid header value"
  | loggingStarted .. => "logging initialized"
  | telemetryStarted .. => "telemetry initialized"
  | listenerStarted _ => "metrics scrape listener started"
  | serviceAssembled .. => "vigil pipeline assembled"

/-- The named values of an event. -/
def fields : Event → List (String × Value)
  | spanFinished trace _ span =>
    [("traceid", .text trace), ("name", .text span.name),
      ("status", .text (statusText span.status)), ("events", .nat span.events.length)]
  | stage s t => [("from", .text s.name), ("to", .text t.name)]
  | inboundTraceUnreadable => []
  | deadlineUnset route => [("http.route", .text route)]
  | deadlineExceeded trace route limit =>
    [("traceid", .text trace), ("http.route", .text route),
      ("limit_ms", .nat (limit.millis % UInt64.size))]
  | handlerPanicked trace panic => [("traceid", .text trace), ("panic", .text panic)]
  | requestCancelled trace last => [("traceid", .text trace), ("state", .text last.name)]
  | requestFailed trace kind status error =>
    [("traceid", .text trace), ("error.kind", .text kind.name), ("http.status_code", .nat status),
      ("error", .text error)]
  | requestCompleted trace method route status =>
    [("traceid", .text trace), ("http.method", .text method), ("http.route", .text route),
      ("http.status_code", .nat status)]
  | callFailed trace method url attempts =>
    [("traceid", .text trace), ("http.method", .text method), ("http.url", .text url),
      ("attempts", .nat attempts)]
  | callRetried trace url attempt delay =>
    [("traceid", .text trace), ("http.url", .text url), ("attempt", .nat attempt),
      ("delay_ms", .nat delay)]
  | traceUnsendable trace => [("traceid", .text trace)]
  | loggingStarted service filter => [("service.name", .text service), ("filter", .text filter)]
  | telemetryStarted service environment metrics =>
    [("service.name", .text service), ("environment", .text environment),
      ("metrics", .bool metrics)]
  | listenerStarted address => [("addr", .text address)]
  | serviceAssembled defaultTimeout maxAttempts =>
    [("default_timeout_ms", .nat defaultTimeout), ("max_attempts", .nat maxAttempts)]

/-- The names of the values that are measured or drawn, which are not among the others. -/
def measured : Event → List String
  | spanFinished .. => ["span_id", "parent_id", "duration_ms"]
  | inboundTraceUnreadable => ["inbound"]
  | requestCompleted .. => ["duration_ms"]
  | _ => []

/-- The names of all values; the sentence is one of them. -/
def fieldNames (e : Event) : List String := "message" :: e.measured ++ e.fields.map (·.1)

end Event

end Ingress.Log
