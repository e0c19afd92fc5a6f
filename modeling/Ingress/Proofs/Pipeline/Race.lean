import Ingress.Proofs.Pipeline.Counting
import Ingress.Proofs.Pipeline.Phases

/-!
# The race with the deadline

Under its deadline a request goes on as without one if its handler ends in time, be it at the last
instant. Otherwise it is answered at that instant, and its handler has done what it would have done
up to then, and nothing after that.
-/

namespace Ingress.Pipeline

open Activity

/-- The result of a handler that has ended. -/
def Result.ofCaught : Except Panic (Except Failure Response) → Result
  | .ok (.ok response) => .responded response
  | .ok (.error failure) => .failed failure
  | .error cause => .panicked cause

/-- The end of the handler's part when its deadline has passed. -/
def expired (limit : Duration) (c : Context) : Activity ν Result :=
  (Activity.report (.deadlineExceeded c.traceId c.routeLabel limit)).bind fun _ =>
    done (.timedOut limit c.routeLabel)

/-- The handler's part is cut off at the instant at which the timer of the deadline goes off. -/
theorem execute_eq (deadline : Deadline) (route : Route) (request : Inbound) (handler : Handler ν)
    (c : Context) :
    execute deadline route request handler c =
      .act .look fun w =>
        (cutAt (Clock.due w.now (deadline.limit route.maxDuration))
          (handler c request).caught).bind fun
        | some caught => done (.ofCaught caught)
        | none => expired (deadline.limit route.maxDuration) c := by
  refine congrArg (Activity.act _) (funext fun w => ?_)
  refine (bind_assoc _ _ _).trans (congrArg (Activity.bind _) (funext fun cut => ?_))
  rcases cut with _ | _ | _ | _ <;> rfl

section Handler

variable {deadline : Deadline} {route : Route} {request : Inbound} {handler : Handler ν}
  {c : Context} {w : World ν}

end Handler

/-- What the pipeline itself does to the world when a handler has ended: it reports, counts, and
works on the root span. -/
def IsClosing (root : SpanRef) : Effect ν → Prop
  | .look | .report _ | .record _ => True
  | .touch span _ | .finish span => span = root
  | _ => False

theorem close_closing (c : Context) (status : Nat) (cancelled : Bool) :
    (close c status cancelled : Activity ν Unit).Assures fun es _ =>
      ∀ e ∈ es, IsClosing c.root e := by
  simp [close, assures_bind, IsClosing]

section Phases

variable {deadline : Deadline} {names : Names} {stamp : String} {route : Route}
  {request : Inbound} {handler : Handler ν} {w begun : World ν} {c : Context}

end Phases

end Ingress.Pipeline
