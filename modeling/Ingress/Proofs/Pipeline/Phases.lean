import Ingress.Pipeline.Handling
import Ingress.Proofs.Activity.Timing

/-!
# Phases of a request

Handling a request falls into what happens before its handler runs, the handler itself under its
deadline, and the end, which is one of two: the request is answered or it is abandoned.
-/

namespace Ingress.Pipeline

open Activity

/-- What happens to a request before its handler runs. -/
def opening (deadline : Deadline) (names : Names) (route : Route) (request : Inbound) :
    Activity ν Context := do
  let c ← receive deadline names route request
  advance .received .traced
  advance .traced .executing
  pure c

/-- The end of a request whose handler has ended. -/
def answered (stamp : String) (c : Context) (result : Result) : Activity ν Handled := do
  let (response, stages) ← answer c stamp result
  advance (stages.getLastD .executing) .responded
  close c (traced c response).status false
  pure ⟨c, some (traced c response),
    [Stage.received, .traced, .executing] ++ stages ++ [.responded, .spanClosed]⟩

/-- The end of a request whose caller has gone away. -/
def abandoned (c : Context) : Activity ν Handled := do
  Activity.report (.requestCancelled c.traceId .executing)
  close c closedStatus true
  pure ⟨c, none, [.received, .traced, .executing, .spanClosed]⟩

/-- The handler's part in the handling of a request. -/
def ended (stamp : String) (c : Context) : Option Result → Activity ν Handled
  | some result => answered stamp c result
  | none => abandoned c

/-- Handling a request is one phase after the other. -/
theorem handle_eq (deadline : Deadline) (names : Names) (stamp : String) (route : Route)
    (request : Inbound) (handler : Handler ν) (patience : Option Duration) :
    handle deadline names stamp route request handler patience =
      (opening deadline names route request).bind fun c =>
        (withinOption patience (execute deadline route request handler c)).bind
          (ended stamp c) := by
  simp only [handle, opening, bind_eq, pure_eq, bind_assoc]
  rfl

/-- No time passes before the handler runs. -/
theorem prompt_opening (deadline : Deadline) (names : Names) (route : Route) (request : Inbound) :
    (opening deadline names route request : Activity ν Context).Prompt := by
  have plain : (inboundTrace request.headers : Activity ν (Option String)).Prompt := by
    unfold inboundTrace
    split
    · trivial
    · split
      · trivial
      · exact fun _ => trivial
  refine prompt_bind (prompt_bind plain fun inbound => ?_) fun c _ _ => trivial
  refine prompt_bind (fun _ _ => trivial) fun c => ?_
  refine prompt_bind (fun _ => trivial) fun c => ?_
  refine prompt_bind (fun _ => trivial) fun c => ?_
  refine prompt_bind (fun _ _ => trivial) fun c => ?_
  refine prompt_bind (fun _ => trivial) fun w => ?_
  split
  · trivial
  · exact fun _ => trivial

end Ingress.Pipeline
