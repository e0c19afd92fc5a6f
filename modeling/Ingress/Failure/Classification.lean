import Ingress.Failure.Basic
import Ingress.Text.Lowercase

/-!
# Classification

What the world outside learns of a failure: a status, a kind and messages. Texts that were not
written for clients never show. The status is the one that the failure fixes, or that of the answer
of another service, or the one in the body of that answer, or else 500.
-/

namespace Ingress

/-- What is told of a failure. -/
structure Classification where
  status : Nat
  kind : Failure.Kind
  messages : List String
  /-- The label of the envelope, if the failure has one. -/
  context : Option String
  /-- Seconds to wait before another try. -/
  retryAfter : Option Nat
deriving DecidableEq

namespace Classification

/-- The message of what is not known better. -/
def internalMessage : String := "Internal Server Error"

/-- The standard message of a status. -/
def standardMessage? (status : Nat) : Option String :=
  match status with
  | 400 => some "Bad Request"
  | 401 => some "Unauthorized"
  | 403 => some "Forbidden"
  | 404 => some "Not Found"
  | 405 => some "Method Not Allowed"
  | 408 => some "Request Timeout"
  | 409 => some "Conflict"
  | 410 => some "Gone"
  | 413 => some "Payload Too Large"
  | 415 => some "Unsupported Media Type"
  | 422 => some "Unprocessable Entity"
  | 429 => some "Too Many Requests"
  | 500 => some internalMessage
  | 501 => some "Not Implemented"
  | 502 => some "Bad Gateway"
  | 503 => some "Service Unavailable"
  | 504 => some "Gateway Timeout"
  | _ => none

/-- The message of a status: the standard one, or else the supplied one. -/
def statusMessage (status : Nat) (supplied : Option String) : String :=
  ((standardMessage? status).or supplied).getD internalMessage

/-- Statuses from 400 to 599 are those of errors. -/
def isErrorStatus (status : Nat) : Bool := 400 ≤ status && status ≤ 599

/-- A chosen status outside of those is an internal fault. -/
def errorStatus (chosen : Option Nat) : Nat := (chosen.filter isErrorStatus).getD 500

/-- A violation as clients see it, in small letters. A path that begins with an index is told from
that element on. -/
def formatViolation (v : Violation) : String :=
  Text.lower <|
    match v.path with
    | [] => v.reason
    | [.index n] => "array position: " ++ toString n ++ ": " ++ v.reason
    | .index n :: rest =>
      "array position: " ++ toString n ++ ", property: " ++ Violation.dotted rest ++ ": "
        ++ v.reason
    | .key _ :: _ => v.field ++ ": " ++ v.reason

/-- The status, kind, messages and delay of a failure without labels. -/
structure Verdict where
  status : Nat
  kind : Failure.Kind
  /-- Without messages the one of the status is told. -/
  messages : List String
  retryAfter : Option Nat

/-- The status of a failed call is that of the last answer if it is an error, or else the one in its
body. -/
def ofDownstream (f : Downstream.Failure) : Verdict :=
  match f.cause with
  | .answered r =>
    let status := (some r.status).filter isErrorStatus
    let embedded := r.embeddedCode?.filter isErrorStatus
    ⟨(status.or embedded).getD 500, .downstreamFailure, [], none⟩
  | .network code _ =>
    ⟨500, .downstreamFailure, (code.map Downstream.NetworkCode.message).toList, none⟩

/-- The verdict on a failure without labels. -/
def ofRoot (root : Failure) : Verdict :=
  match root with
  | .validation vs =>
    ⟨errorStatus root.explicitStatus?, .inputValidation, vs.map formatViolation, none⟩
  | .timeout limit _ =>
    ⟨errorStatus root.explicitStatus?, .timeout,
      ["Request exceeded the maximum duration of " ++ toString limit.millis ++ "ms"], none⟩
  | .rateLimited seconds => ⟨errorStatus root.explicitStatus?, .rateLimited, [], seconds⟩
  | .downstream f => ofDownstream f
  | .internal f =>
    match f.base with
    | .downstream d => ofDownstream d
    | _ => ⟨500, .internal, [], none⟩
  | root => ⟨errorStatus root.explicitStatus?, root.kind, [], none⟩

end Classification

/-- Classifies a failure. -/
def Failure.classify (f : Failure) : Classification :=
  let v := Classification.ofRoot f.root
  let messages :=
    if v.messages.isEmpty then [Classification.statusMessage v.status f.suppliedMessage?]
    else v.messages
  ⟨v.status, v.kind, messages, f.label?, v.retryAfter⟩

/-- A classification has something to say. -/
theorem Failure.messages_ne_nil (f : Failure) : f.classify.messages ≠ [] := by
  unfold Failure.classify
  simp only
  split
  · simp
  · rename_i h
    intro e
    simp [e] at h

end Ingress
