import Ingress.Activity.Limit
import Ingress.Activity.Tracing
import Ingress.Failure.Basic
import Ingress.Retry.Policy

/-!
# Outbound calls

A call sends a request again and again, as its policy allows, until an attempt succeeds or there is
no more to try. It has a span of its own, on which every attempt and every pause is logged.
-/

namespace Ingress.Downstream

/-- Why a call has no answer: it failed, or its span could not be started. -/
inductive CallError
  | failed (failure : Failure)
  | trace (error : TraceError)

namespace CallError

/-- The error in words. -/
def display : CallError → String
  | .failed failure => failure.display
  | .trace error => "outbound call rejected: " ++ error.message

/-- The failure of a request that is not prepared for this error. -/
def toFailure : CallError → Ingress.Failure
  | .failed failure => .downstream failure
  | .trace error => .ofTraceError error

end CallError

namespace Call

/-- Whole milliseconds, as far as 64 bits go. -/
def millis (d : Duration) : Nat := min d.millis (UInt64.size - 1)

/-- Sends a request and waits for what becomes of it. -/
def exchange (request : Request) : Activity ν Outcome := do
  let w ← Activity.perform (.send request)
  match w.network.reply request with
  | .never => .forever
  | .after delay outcome => do
    Activity.sleep (.ofMillis delay)
    pure outcome

/-- What an attempt ends with that takes longer than it may. -/
def overdue (limit : Duration) : Outcome :=
  .network (some .timedOut) ("attempt timed out after " ++ toString (millis limit) ++ "ms")

/-- One attempt. -/
def attempt (policy : Retry.Policy) (request : Request) : Activity ν Outcome :=
  match policy.attemptTimeout with
  | none => exchange request
  | some limit => do
    let outcome ← Activity.within limit (exchange request)
    pure (outcome.getD (overdue limit))

/-- Whether an outcome is worth another attempt. -/
def isRetryable (policy : Retry.Policy) : Outcome → Bool
  | .answered r => policy.retriesStatus r.status
  | .network code _ => policy.retriesCode code

/-- Whether a request may be sent more than once. -/
def mayRepeat (policy : Retry.Policy) (request : Request) : Bool :=
  request.retryAllowed.getD (policy.retriesMethod request.method)

/-- The pause after a failed attempt. -/
def pause (policy : Retry.Policy) (request : Request) (span : SpanRef) (number : Nat) :
    Activity ν Unit := do
  let w ← if policy.jitterMicros = 0 then Activity.world else Activity.perform .draw
  let delay := policy.backoff number w.drawn
  Activity.logEvent span "http.retry"
    [("attempt", .ofNat number), ("delay_ms", .ofNat (millis delay))]
  Activity.report (.callRetried (w.traceOf span) request.url number (millis delay))
  Activity.sleep delay

/-- One attempt with its entry on the span of the call. -/
def tryOnce (policy : Retry.Policy) (request : Request) (span : SpanRef) (number : Nat) :
    Activity ν (Except Outcome Response) := do
  let outcome ← attempt policy request
  Activity.logEvent span "http.attempt"
    [("attempt", .ofNat number), ("outcome", .text outcome.word)]
  match outcome.success? with
  | some response =>
    Activity.setAttribute span "http.attempts" (.ofNat number)
    pure (.ok response)
  | none => pure (.error outcome)

/-- The end of a call without success. -/
def giveUp (request : Request) (span : SpanRef) (number : Nat) (outcome : Outcome) :
    Activity ν (Except Failure Response) := do
  Activity.setAttribute span "http.attempts" (.ofNat number)
  let w ← Activity.world
  Activity.report (.callFailed (w.traceOf span) request.method request.url number)
  pure (.error ⟨request.method, request.url, number, outcome⟩)

/-- The attempts of a call from the one with a given number on, followed by so many more at most. -/
def attempts (policy : Retry.Policy) (request : Request) (span : SpanRef) (number : Nat) :
    Nat → Activity ν (Except Failure Response)
  | 0 => do
    match ← tryOnce policy request span number with
    | .ok response => pure (.ok response)
    | .error outcome => giveUp request span number outcome
  | more + 1 => do
    match ← tryOnce policy request span number with
    | .ok response => pure (.ok response)
    | .error outcome =>
      if mayRepeat policy request && isRetryable policy outcome then do
        pause policy request span number
        attempts policy request span (number + 1) more
      else giveUp request span number outcome

/-- Notes on the span of a call how it ended. -/
def conclude (span : SpanRef) : Except Failure Response → Activity ν Unit
  | .ok response => do
    Activity.setAttribute span "http.status_code" (.ofNat response.status)
    Activity.setStatus span .ok
  | .error failure => do
    match failure.status? with
    | some status => Activity.setAttribute span "http.status_code" (.ofNat status)
    | none => pure ()
    Activity.setStatus span (.error failure.cause.display)

/-- A call under a span. -/
def run (policy : Retry.Policy) (parent : SpanRef) (request : Request) :
    Activity ν (Except CallError Response) := do
  match ← Activity.startChild parent ("HTTP " ++ request.method) with
  | .error e => pure (.error (.trace e))
  | .ok span =>
    Activity.setAttribute span "http.method" (.text request.method)
    Activity.setAttribute span "http.url" (.text request.url)
    let result ← attempts policy request span 1 (policy.maxAttempts - 1)
    conclude span result
    Activity.finish span
    pure (result.mapError .failed)

end Call

end Ingress.Downstream
