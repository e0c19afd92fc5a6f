import Ingress.Downstream.Outcome

/-!
# Failed calls to other services

A call fails with the outcome of its last attempt: an answer that is no success, or a failure below
HTTP.
-/

namespace Ingress.Downstream

/-- A call that failed for good. -/
structure Failure where
  method : String
  url : String
  attempts : Nat
  cause : Outcome

namespace Failure

/-- The failure in words. -/
def display (f : Failure) : String :=
  f.method ++ " " ++ f.url ++ " failed after " ++ toString f.attempts ++ " attempt(s): "
    ++ f.cause.display

/-- The last answer, if there was one. -/
def response? (f : Failure) : Option Response :=
  match f.cause with
  | .answered r => some r
  | .network .. => none

/-- The status of the last answer. -/
def status? (f : Failure) : Option Nat := f.response?.map (·.status)

/-- The code of the last failure below HTTP. -/
def networkCode? (f : Failure) : Option NetworkCode :=
  match f.cause with
  | .answered _ => none
  | .network code _ => code

end Failure

end Ingress.Downstream
