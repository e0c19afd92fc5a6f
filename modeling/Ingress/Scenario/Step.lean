import Ingress.Downstream.Client
import Ingress.Json.Decoder
import Ingress.Pipeline.Handling
import Ingress.Schema.Basic

/-!
# Steps

A handler can be written down as a list of steps on named contexts and spans. A name stands for the
span that was given it, or else for the root of the context of that name.
-/

namespace Ingress.Scenario

/-- A call as a step. -/
structure CallStep where
  context : String
  request : Downstream.Request
  /-- The span that the call is put under, if it is not the root. -/
  under : Option String
  /-- Whether the client is not bound to the context. -/
  bare : Bool

/-- One step of a handler. -/
inductive Step
  | start (context label : String) (inbound : Option String)
  | clone (context source : String)
  | method (context value : String)
  | path (context value : String)
  | route (context : String) (value : Except Json.Refusal Route)
  | identity (context : String) (value : Except Json.Refusal Identity)
  | authorization (context : String) (value : ByteArray)
  | deadline (context : String) (granted : Duration)
  | inspect (context role : String)
  /-- Starts a child through a context, or through the parent alone. -/
  | child (context : Option String) (parent name as_ : String)
  | change (span : String) (change : Span.Change)
  | finish (span : String)
  | look (span : String) (key : Option String)
  | tree (context : String)
  | sameTrace (a b : String)
  | headers (context : String) (existing : Headers)
  | call (call : CallStep)
  /-- Works for some time under a limit. -/
  | race (context : String) (work : Duration) (own default : Option Duration)
  | sleep (length : Duration)
  | parallel (branches : List (List Step))
  | validate (schema : Schema)
  | fail (failure : Failure)
  | respond (response : Response)
  | panic (cause : Panic)
  | pending
  /-- A step whose failure ends the steps. -/
  | orFail (step : Step)

/-- The name of a step. -/
def Step.name : Step → String
  | start .. => "begin"
  | clone .. => "clone"
  | method .. => "method"
  | path .. => "path"
  | route .. => "route"
  | identity .. => "identity"
  | authorization .. => "authorization"
  | deadline .. => "deadline"
  | inspect .. => "info"
  | child .. => "child"
  | change _ (.attribute ..) => "attr"
  | change _ (.status _) => "status"
  | change _ (.name _) => "rename"
  | change _ (.event ..) => "event"
  | finish _ => "finish"
  | look .. => "show"
  | tree _ => "tree"
  | sameTrace .. => "same_trace"
  | headers .. => "headers"
  | call _ => "call"
  | race .. => "race"
  | sleep _ => "sleep"
  | parallel _ => "parallel"
  | validate _ => "validate"
  | fail _ => "fail"
  | respond _ => "respond"
  | panic _ => "panic"
  | pending => "pending"
  | orFail step => step.name

end Ingress.Scenario
