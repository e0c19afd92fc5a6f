import Ingress.Failure.Envelope
import Ingress.Pipeline.Deadline

/-!
# Handling a request

A request gets a trace and a root span, its handler runs under a deadline, a failure is turned into
an envelope, and at the end the request is counted and its tree closed. The end is the same whether
there is a response or the caller has gone away.
-/

namespace Ingress.Pipeline

/-- A request as it arrives. -/
structure Inbound where
  method : String
  /-- The path with its query, or a full address. -/
  target : String
  headers : Headers
  body : ByteArray

/-- What serves a request: its result is a response or a failure. -/
abbrev Handler (ν : Type) := Context → Inbound → Activity ν (Except Failure Response)

/-- What became of a request. -/
structure Handled where
  context : Context
  /-- Nothing when the caller went away. -/
  response : Option Response
  /-- The stages that the request went through. -/
  stages : List Stage

/-- The status that a request is counted under when the caller went away. -/
def closedStatus : Nat := 499

/-- Reports that a request passes from one stage to the next. -/
def advance (here next : Stage) : Activity ν Unit := Activity.report (.stage here next)

/-- The trace id that a request brings; one that is not visible text is reported and does not
count. -/
def inboundTrace (headers : Headers) : Activity ν (Option String) :=
  match headers.get? Headers.traceId with
  | none => pure none
  | some value =>
    match Http.visibleText? value with
    | some trace => pure (some trace)
    | none => do
      Activity.report .inboundTraceUnreadable
      pure none

/-- The context of a request that arrives. -/
def receive (deadline : Deadline) (names : Names) (route : Route) (request : Inbound) :
    Activity ν Context := do
  let inbound ← inboundTrace request.headers
  let limit := deadline.limit route.maxDuration
  let c ← Context.start names inbound
  let c ← c.withMethod request.method
  let c ← c.withPath (Http.targetPath request.target)
  let c ← c.withRoute route
  let w ← Activity.world
  let c ← if Clock.reaches w.now limit then pure { c with granted := some limit }
    else do
      Activity.report (.deadlineUnset route.template)
      pure c
  pure { c with authorization := request.headers.get? Headers.authorization }

/-- Counts a request, notes its outcome on the root span and closes the tree. An error status that
the handler gave the root is kept. -/
def close (c : Context) (status : Nat) (cancelled : Bool) : Activity ν Unit := do
  let w ← Activity.world
  Activity.cause (.record ⟨c.method, c.routeLabel, status, .ofMillis (w.now - c.began)⟩)
  Activity.setAttribute c.root "http.status_code" (.ofNat status)
  if cancelled then Activity.setStatus c.root (.error "cancelled")
  else if (w.span? c.root).any (·.status.isError) then pure ()
  else Activity.setStatus c.root .ok
  Activity.finish c.root
  Activity.report (.requestCompleted c.traceId c.method c.routeLabel status)

/-- The envelope of a failure, with what is reported of it and noted on the root span. -/
def answerFailure (c : Context) (stamp : String) (here : Stage) (failure : Failure) :
    Activity ν Response := do
  advance .executing here
  let verdict := failure.classify
  advance here .classified
  Activity.report (.requestFailed c.traceId verdict.kind verdict.status failure.display)
  Activity.setAttribute c.root "error.kind" (.text verdict.kind.name)
  Activity.setStatus c.root (.error verdict.kind.name)
  pure (Envelope.format c.traceId c.path c.route verdict stamp).respond

/-- How the handler of a request ended. -/
inductive Result
  | responded (response : Response)
  | failed (failure : Failure)
  | panicked (cause : Panic)
  | timedOut (limit : Duration) (route : String)

/-- Runs the handler of a request under its deadline. -/
def execute (deadline : Deadline) (route : Route) (request : Inbound) (handler : Handler ν)
    (c : Context) : Activity ν Result := do
  match ← deadline.run c route.maxDuration (handler c request).caught with
  | .ok (.ok (.ok response)) => pure (.responded response)
  | .ok (.ok (.error failure)) => pure (.failed failure)
  | .ok (.error cause) => pure (.panicked cause)
  | .error (limit, label) => pure (.timedOut limit label)

/-- The response to a request whose handler has ended, and the stages up to it. -/
def answer (c : Context) (stamp : String) : Result → Activity ν (Response × List Stage)
  | .responded response => do
    advance .executing .completed
    pure (response, [.completed])
  | .failed failure => do
    let response ← answerFailure c stamp .failed failure
    pure (response, [.failed, .classified])
  | .panicked cause => do
    Activity.report (.handlerPanicked c.traceId cause.display)
    let response ← answerFailure c stamp .failed (.fault cause.display)
    pure (response, [.failed, .classified])
  | .timedOut limit label => do
    let response ← answerFailure c stamp .timedOut (.timeout limit label)
    pure (response, [.timedOut, .classified])

/-- The response with the trace id of the request, if that is a header value. -/
def traced (c : Context) (response : Response) : Response :=
  match Http.headerValue? c.traceId with
  | some value => { response with headers := response.headers.insert Headers.traceId value }
  | none => response

/-- Handles a request. The caller may go away after some time; `stamp` is the time of day for
envelopes. -/
def handle (deadline : Deadline) (names : Names) (stamp : String) (route : Route)
    (request : Inbound) (handler : Handler ν) (patience : Option Duration) :
    Activity ν Handled := do
  let c ← receive deadline names route request
  advance .received .traced
  advance .traced .executing
  let started := [Stage.received, .traced, .executing]
  match ← Activity.withinOption patience (execute deadline route request handler c) with
  | some result =>
    let (response, stages) ← answer c stamp result
    let response := traced c response
    advance (stages.getLastD .executing) .responded
    close c response.status false
    pure ⟨c, some response, started ++ stages ++ [.responded, .spanClosed]⟩
  | none =>
    Activity.report (.requestCancelled c.traceId .executing)
    close c closedStatus true
    pure ⟨c, none, started ++ [.spanClosed]⟩

end Ingress.Pipeline
