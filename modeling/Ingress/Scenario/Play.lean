import Ingress.Activity.Together
import Ingress.Json.Diagnosis
import Ingress.Scenario.Entry
import Ingress.Schema.Validation

/-!
# Playing steps

The steps of a handler as an activity. They end with the first step that answers or fails; branches
that run together are all played to their ends, and then the first one that has an end decides.
-/

namespace Ingress.Scenario

/-- What the steps of a handler need to know. -/
structure Setting where
  /-- The name that the entries are kept under. -/
  handler : String
  policy : Retry.Policy
  /-- The body of the request. -/
  body : ByteArray

/-- How a handler ends. -/
abbrev End := Except Failure Response

/-- What a step comes to. -/
inductive Played
  | went (finding : Finding)
  | ended (result : End)

/-- Something that happens on the board. -/
abbrev Play (α : Type) := Activity Board α

namespace Play

/-- The board. -/
def board : Play Board := do
  let w ← Activity.world
  pure w.app

/-- Changes the board. -/
def modify (f : Board → Board) : Play Unit := Activity.cause (.app f)

/-- Goes on with the context of a name. -/
def withContext (name : String) (f : Context → Play Played) : Play Played := do
  match (← board).context? name with
  | some c => f c
  | none => pure (.went .unknown)

/-- Goes on with the span of a name. -/
def withSpan (name : String) (f : SpanRef → Play Played) : Play Played := do
  match (← board).span? name with
  | some s => f s
  | none => pure (.went .unknown)

/-- Replaces the context of a name by one that comes of it. -/
def replace (name : String) (f : Context → Play Context) : Play Played :=
  withContext name fun c => do
    let c ← f c
    modify (·.bind name c)
    pure (.went .ok)

/-- A span as it is now. -/
def view? (w : World ν) (s : SpanRef) : Option SpanView := (w.span? s).map .of

/-- The spans of the tree of a context. -/
def views (w : World ν) (c : Context) : List SpanView :=
  match w.tree? c.root with
  | some t => t.spans.map .of
  | none => []

/-- The longest pause between two steps. -/
def longest : Duration := .ofMillis Clock.farAway

/-- A pause between two steps. One that is to last longer than the longest ends with that, at the
instant that also stands for the end of a limit that the clock cannot tell. -/
def pause (length : Duration) : Play Unit := Activity.sleep (length.min longest)

/-- The real time that passes between two steps. Sleeping takes none. -/
def stepTime : Duration := .ofMicros 1

/-- A context as it is now. -/
def contextView (w : World ν) (role : String) (c : Context) : ContextView :=
  ⟨c, role, (c.remaining stepTime).map fun left => left.nanos = 0, w.isFinished c.root,
    (views w c).length⟩

/-- The names of the spans that finishing a span would finish, in the order of their starts. -/
def endedBy (w : World ν) (s : SpanRef) : List Span.Id :=
  match w.tree? s with
  | some t => (t.closing s.index).reverse.map t.id
  | none => []

/-- A call. -/
def call (policy : Retry.Policy) (c : Context) (under : Option SpanRef) (step : CallStep) :
    Play Played := do
  let result ←
    if step.bare then Downstream.Call.run policy (under.getD c.root) step.request
    else do
      let client := Downstream.Client.ofContext policy c
      match under with
      | none => client.send step.request
      | some span =>
        match ← client.under span with
        | .ok client => client.send step.request
        | .error e => pure (.error e)
  match result with
  | .ok response => pure (.went (.answered response))
  | .error e => pure (.went (.noAnswer e))

/-- Checks the body of the request. -/
def validate (body : ByteArray) (schema : Schema) : Played :=
  match Json.ofBytes? body with
  | none => .ended (.error (.fault (Json.Diagnosis.ofBytes body)))
  | some value =>
    match schema.validate value with
    | .ok () => .went .valid
    | .error failure => .ended (.error failure)

/-- A step without branches. -/
def simple (s : Setting) : Step → Play Played
  | .start context label inbound => do
    let fresh := "<uuid:" ++ label ++ ">"
    let c ← Context.start ⟨label, fresh⟩ inbound
    modify (·.bind context c)
    pure (.went .ok)
  | .clone context source => withContext source fun c => do
    modify (·.bind context c)
    pure (.went .ok)
  | .method context value => replace context (·.withMethod value)
  | .path context value => replace context (·.withPath value)
  | .route _ (.error why) => pure (.went (.refused why))
  | .route context (.ok value) => replace context (·.withRoute value)
  | .identity _ (.error why) => pure (.went (.refused why))
  | .identity context (.ok value) => replace context (·.withIdentity value)
  | .authorization context value =>
    replace context fun c => pure { c with authorization := some value }
  | .deadline context granted => replace context fun c => pure { c with granted := some granted }
  | .inspect context role => withContext context fun c => do
    let w ← Activity.world
    pure (.went (.context (contextView w role c)))
  | .child context parent name as_ => withSpan parent fun p => do
    let start (through : Option Context) : Play Played := do
      let started ← match through with
        | some c => c.startChild p name
        | none => Activity.startChild p name
      match started with
      | .error e => pure (.went (.noChild e))
      | .ok span =>
        modify (·.bindSpan as_ span)
        let w ← Activity.world
        pure (.went (.child span.id (w.traceOf span)))
    match context with
    | some context => withContext context fun c => start (some c)
    | none => start none
  | .change span change => withSpan span fun s => do
    Activity.cause (.touch s change)
    pure (.went .ok)
  | .finish span => withSpan span fun s => do
    let w ← Activity.perform (.finish s)
    pure (.went (.finished (endedBy w s)))
  | .look span key => withSpan span fun s => do
    match view? (← Activity.world) s with
    | some view => pure (.went (.span view key))
    | none => pure (.went .unknown)
  | .tree context => withContext context fun c => do
    let w ← Activity.world
    pure (.went (.tree (views w c)))
  | .sameTrace a b => withSpan a fun a => withSpan b fun b =>
    pure (.went (.sameTrace (a.tree = b.tree)))
  | .headers context existing => withContext context fun c => do
    let headers ← c.propagate existing
    pure (.went (.headers c.traceId headers))
  | .call step => withContext step.context fun c =>
    match step.under with
    | none => call s.policy c none step
    | some under => withSpan under fun span => call s.policy c (some span) step
  | .race context work own default => withContext context fun c => do
    let deadline := Pipeline.Deadline.new default
    match ← deadline.run c own (pause work) with
    | .ok () => pure (.went .inTime)
    | .error (limit, route) => pure (.went (.tooLate limit route))
  | .sleep length => do
    pause length
    pure (.went .ok)
  | .validate schema => pure (validate s.body schema)
  | .fail failure => pure (.ended (.error failure))
  | .respond response => pure (.ended (.ok response))
  | .panic cause => .panic cause
  | .pending => .forever
  | .parallel _ | .orFail _ => pure (.went .unknown)

/-- Keeps an entry of a step that was done. -/
def keep (s : Setting) (step : Step) (finding : Finding) : Play Unit := do
  let w ← Activity.world
  modify (·.keep s.handler ⟨step.name, w.now, finding⟩)

mutual

/-- One step. -/
def step (s : Setting) : Step → Play Played
  | .parallel branches => do
    let ends ← Activity.all (together s branches)
    match ends.findSome? id with
    | some result => pure (.ended result)
    | none => pure (.went .joined)
  | .orFail inner => do
    match ← step s inner with
    | .ended result => pure (.ended result)
    | .went finding =>
      match finding.failure? with
      | some failure => pure (.ended (.error failure))
      | none => pure (.went finding)
  | other => simple s other
termination_by structural x => x

/-- Steps one after the other, up to one that ends them. -/
def steps (s : Setting) : List Step → Play (Option End)
  | [] => pure none
  | x :: rest => do
    match ← step s x with
    | .ended result => pure (some result)
    | .went finding =>
      keep s x finding
      steps s rest
termination_by structural xs => xs

/-- The branches of a step. -/
def together (s : Setting) : List (List Step) → List (Play (Option End))
  | [] => []
  | branch :: rest => steps s branch :: together s rest
termination_by structural branches => branches

end

end Play

/-- The answer of a handler whose steps do not say one. -/
def plainAnswer : Response := .ofJson 200 "\x7b\"ok\":true\x7d"

/-- A request of a scenario. -/
structure Visit where
  /-- The name of the request and of its context. -/
  name : String
  label : String
  route : Route
  inbound : Pipeline.Inbound
  handler : List Step
  /-- How long the caller waits, if not for ever. -/
  patience : Option Duration
  /-- The pause before the request. -/
  start : Duration
  /-- The steps when the request is over. -/
  after : Option (List Step)

/-- What became of a request. -/
structure Visited where
  name : String
  context : Context
  response : Option Response
  elapsed : Nat

/-- Under which name the entries of the steps after a request are kept. -/
def afterwards (name : String) : String := name ++ "\nafter"

/-- A request from its start to the steps after it. -/
def visit (deadline : Pipeline.Deadline) (policy : Retry.Policy) (stamp : String) (v : Visit) :
    Play Visited := do
  Play.pause v.start
  let before ← Activity.world
  let handler : Pipeline.Handler Board := fun c request => do
    Play.modify (·.bind v.name c)
    let result ← Play.steps ⟨v.name, policy, request.body⟩ v.handler
    pure (result.getD (.ok plainAnswer))
  let names : Names := ⟨v.label, "<uuid:" ++ v.label ++ ">"⟩
  let handled ← Pipeline.handle deadline names stamp v.route v.inbound handler v.patience
  let later ← Activity.world
  match v.after with
  | some steps => do
    let _ ← Play.steps ⟨afterwards v.name, policy, v.inbound.body⟩ steps
    pure ()
  | none => pure ()
  pure ⟨v.name, handled.context, handled.response, later.now - before.now⟩

/-- Requests one after the other. -/
def visits (deadline : Pipeline.Deadline) (policy : Retry.Policy) (stamp : String) :
    List Visit → Play (List Visited)
  | [] => pure []
  | v :: rest => do
    let first ← visit deadline policy stamp v
    let others ← visits deadline policy stamp rest
    pure (first :: others)

/-- Requests at the same time. -/
def visitsTogether (deadline : Pipeline.Deadline) (policy : Retry.Policy) (stamp : String)
    (vs : List Visit) : Play (List Visited) :=
  Activity.all (vs.map (visit deadline policy stamp))

end Ingress.Scenario
