import Ingress.Failure.Kind
import Ingress.Downstream.Failure
import Ingress.Schema.Violation
import Ingress.Span.Tree
import Ingress.Time.Duration

/-!
# Failures of a request

Everything that a handler may fail with. What the classifier needs is fixed where the failure is
made; labels put around it later say where it happened and change nothing else.
-/

namespace Ingress

/-- What an internal fault is at bottom. -/
inductive Fault.Base
  | message (text : String)
  | downstream (failure : Downstream.Failure)
  | trace (error : TraceError)

/-- A fault whose text is not for clients, with notes put around it, the outermost first. -/
structure Fault where
  notes : List String
  base : Fault.Base

namespace Fault

/-- A fault without notes. -/
def ofBase (base : Base) : Fault := ⟨[], base⟩

/-- Puts a note around a fault. -/
def note (text : String) (f : Fault) : Fault := { f with notes := text :: f.notes }

/-- What lies at the bottom, in words. -/
def Base.display : Base → String
  | .message text => text
  | .downstream failure => failure.display
  | .trace error => error.message

/-- The bottom and what caused it, in words. -/
def Base.chain : Base → List String
  | .message text => [text]
  | .downstream failure => [failure.display, failure.cause.display]
  | .trace error => [error.message]

/-- The notes, the bottom and what caused it, in words, from the outside in. -/
def chain (f : Fault) : List String := f.notes ++ f.base.chain

/-- The fault in words: its outermost note. -/
def display (f : Fault) : String :=
  match f.notes with
  | [] => f.base.display
  | text :: _ => text

end Fault

/-- A failed request. -/
inductive Failure
  | validation (violations : List Violation)
  | unauthenticated (message : String)
  | unauthorized (message : String)
  | notFound (message : String)
  | conflict (message : String)
  | unprocessable (message : String)
  | rateLimited (retryAfter : Option Nat)
  /-- A status that the handler chose. The message counts if the status has no standard one. -/
  | status (status : Nat) (message : Option String)
  | timeout (limit : Duration) (route : String)
  | downstream (failure : Downstream.Failure)
  | internal (fault : Fault)
  /-- A failure with the label that its envelope shows. -/
  | labelled (label : String) (inner : Failure)

namespace Failure

/-- An internal failure with a message. -/
def fault (message : String) : Failure := .internal (.ofBase (.message message))

/-- A refused span as a failure. -/
def ofTraceError (e : TraceError) : Failure := .internal (.ofBase (.trace e))

/-- The failure in words, for logs. -/
def display : Failure → String
  | .validation vs => "validation failed with " ++ toString vs.length ++ " violation(s)"
  | .unauthenticated m => "unauthenticated: " ++ m
  | .unauthorized m => "unauthorized: " ++ m
  | .notFound m => "not found: " ++ m
  | .conflict m => "conflict: " ++ m
  | .unprocessable m => "unprocessable entity: " ++ m
  | .rateLimited _ => "rate limited"
  | .status s m => "status " ++ toString s ++ (match m with
      | some m => ": " ++ m
      | none => "")
  | .timeout limit route =>
    "route " ++ route ++ " exceeded its " ++ toString limit.millis ++ "ms deadline"
  | .downstream f => f.display
  | .internal f => f.display
  | .labelled label inner => label ++ ": " ++ inner.display

/-- What the failure is beneath its labels. -/
def root : Failure → Failure
  | .labelled _ inner => inner.root
  | f => f

/-- The outermost label. -/
def label? : Failure → Option String
  | .labelled label _ => some label
  | _ => none

/-- The causes beneath the failure in words, from the outside in. -/
def sources : Failure → List String
  | .labelled _ inner => inner.display :: inner.sources
  | .downstream f => [f.cause.display]
  | .internal f => f.chain.drop 1
  | _ => []

/-- The nature of the failure. -/
def kind (f : Failure) : Kind :=
  match f.root with
  | .validation _ => .inputValidation
  | .unauthenticated _ => .unauthenticated
  | .unauthorized _ => .unauthorized
  | .notFound _ => .notFound
  | .conflict _ => .conflict
  | .unprocessable _ => .unprocessableEntity
  | .rateLimited _ => .rateLimited
  | .status s _ => .ofStatus s
  | .timeout .. => .timeout
  | .downstream _ => .downstreamFailure
  | .internal _ | .labelled .. => .internal

/-- The status that the failure itself fixes; those of failed calls and internal faults do not. -/
def explicitStatus? (f : Failure) : Option Nat :=
  match f.root with
  | .status s _ => some s
  | .downstream _ | .internal _ => none
  | root => root.kind.defaultStatus?

/-- The message for clients that came with a chosen status. -/
def suppliedMessage? (f : Failure) : Option String :=
  match f.root with
  | .status _ m => m
  | _ => none

end Failure

end Ingress
