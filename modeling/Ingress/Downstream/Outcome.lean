import Ingress.Downstream.NetworkCode
import Ingress.Downstream.Response

/-!
# Outcomes of attempts

One attempt of a call is answered, with whatever status, or fails below HTTP.
-/

namespace Ingress.Downstream

/-- What one attempt ended with. -/
inductive Outcome
  | answered (response : Response)
  | network (code : Option NetworkCode) (message : String)

namespace Outcome

/-- The answer, if it is a success. -/
def success? : Outcome → Option Response
  | .answered r => if r.isSuccess then some r else none
  | .network .. => none

/-- The outcome in one word: the status of an answer or the code of a failure. -/
def word : Outcome → String
  | .answered r => toString r.status
  | .network (some code) _ => code.name
  | .network none _ => "network_error"

/-- The outcome as the cause of a failed call, in words. -/
def display : Outcome → String
  | .answered r => "responded with status " ++ toString r.status
  | .network code message =>
    "network error" ++ (match code with
      | some c => " " ++ c.name
      | none => "") ++ ": " ++ message

end Outcome

end Ingress.Downstream
