import Ingress.Downstream.Client
import Ingress.Proofs.Failure.Classifying
import Ingress.Proofs.Pipeline.Race
import Ingress.Proofs.Pipeline.Reception

/-!
# The answer to a request

A request is answered with what its handler responded, if that was in time, and otherwise with the
envelope of what went wrong. Nothing of the answer is changed but that it has one trace id, and that
is the one of the request.
-/

namespace Ingress

open Activity Http

/-- The response is another one as it stands, except that it has one trace id, and that is this. -/
structure Response.Retraces (original : Response) (trace : String) (r : Response) : Prop where
  status : r.status = original.status
  body : r.body = original.body
  others : r.headers.filter (·.1 ≠ Headers.traceId) =
    original.headers.filter (·.1 ≠ Headers.traceId)
  single : r.headers.getAll Headers.traceId = [trace.toUTF8]

namespace Pipeline

/-- The response that tells of a failure. -/
def failureResponse (c : Context) (stamp : String) (failure : Failure) : Response :=
  (Envelope.format c.traceId c.path c.route failure.classify stamp).respond

theorem status_failureResponse (c : Context) (stamp : String) (failure : Failure) :
    (failureResponse c stamp failure).status = failure.classify.status := by
  obtain ⟨least, most⟩ := Classification.isErrorStatus_iff.1 failure.isErrorStatus_classify
  exact Envelope.status_respond ⟨Nat.le_trans (by decide) least, Nat.le_trans most (by decide)⟩

/-- The response tells clients of a failure, with the status of an error, and its envelope has the
trace id of the request. -/
structure Tells (c : Context) (stamp : String) (failure : Failure) (r : Response) : Prop where
  retraces : (failureResponse c stamp failure).Retraces c.traceId r
  isError : 400 ≤ r.status ∧ r.status ≤ 599
  named : ∃ fields, r.body = (Json.object [("error", .object fields)]).write.toUTF8 ∧
    ("traceid", .string c.traceId) ∈ fields

/-- The response that a result comes to. -/
def Result.response (c : Context) (stamp : String) : Result → Response
  | .responded response => response
  | .failed failure => failureResponse c stamp failure
  | .panicked cause => failureResponse c stamp (.fault cause.display)
  | .timedOut limit label => failureResponse c stamp (.timeout limit label)

theorem retraces_traced {c : Context} (shown : Shows c.traceId.toUTF8) (response : Response) :
    response.Retraces c.traceId (traced c response) := by
  rw [traced, headerValue?_of_shows shown]
  refine ⟨rfl, rfl, ?_, Headers.getAll_insert_self _ _ _⟩
  simp [Headers.insert]

theorem answer_responds (c : Context) (stamp : String) (result : Result) :
    (answer c stamp result : Activity ν _).Assures fun _ p => p.1 = result.response c stamp := by
  cases result <;>
    simp [answer, answerFailure, advance, assures_bind, Result.response, failureResponse]

/-- A result is answered with the response that it comes to, under the trace id of the request. -/
theorem answered_responds (stamp : String) (c : Context) (result : Result) :
    (answered stamp c result : Activity ν Handled).Assures fun _ h =>
      h.context = c ∧ h.response = some (traced c (result.response c stamp)) := by
  simp only [answered, advance, bind_eq, pure_eq, assures_bind, assures_report, assures_done]
  refine (answer_responds c stamp result).mono fun _ answer same _ => ?_
  refine (close_closing c _ false).mono fun _ _ _ => ⟨trivial, ?_⟩
  rw [same]

section Handler

variable {deadline : Deadline} {names : Names} {route : Route} {request : Inbound}
  {handler : Handler ν} {c : Context} {w begun : World ν} {due : Nat} {limit : Duration}

end Handler

end Pipeline

end Ingress
