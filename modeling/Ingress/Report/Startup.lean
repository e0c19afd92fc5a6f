import Ingress.Report.Config
import Ingress.Service.Startup

/-!
# Reports of services that start
-/

namespace Ingress.Report

/-- Why a service cannot be put together. -/
def builtError : Service.BuildError → Json
  | .config i => invalid i
  | .recorder e => errorOf "Metrics" ("metrics recorder: " ++ e.message)

/-- Why telemetry cannot be started. -/
def telemetryError (e : Telemetry.StartError) : Json :=
  let kind := match e with
    | .loggerTaken => "Logging"
    | .filter _ => "InvalidFilter"
    | .address _ => "ListenAddress"
    | _ => "Metrics"
  let more := match e with
    | .filter directives => [("directives", Json.string directives)]
    | _ => []
  let message := match e.message? with
    | some m => [("message", Json.string m)]
    | none => []
  .object ([("error", .string kind)] ++ message ++ more)

/-- Why a service cannot be started. -/
def startError : Service.StartError → Json
  | .config i => errorOf "Config" i.message
  | .telemetry e => telemetryError e

/-- A value of an event. -/
def logValue : Log.Value → Json
  | .text s => .string s
  | .nat n => .ofNat n
  | .bool b => .bool b

/-- A span of the log. -/
def scope (s : Log.Scope) : Json :=
  .object (("name", .string s.name) :: s.fields.map fun (k, v) => (k, .string v))

/-- A line of the log; it may tell where in the program it comes from. -/
def logLine (located : Bool) (l : Log.Line) : Json :=
  let current := match l.scope with
    | some s => [("span", scope s), ("spans", .array (l.around.map scope))]
    | none => []
  .object ([("level", .string l.level.name), ("target", .string l.target),
    ("fields", .object (("message", .string l.message)
      :: l.fields.map fun (k, v) => (k, logValue v))),
    ("has_file", .bool located), ("has_line", .bool located)] ++ current)

/-- The sentences that are looked for in a log that is not written as JSON. -/
def known : List String :=
  ["telemetry initialized", "logging initialized", "request completed", "request failed",
    "span finished"]

/-- What a log shows: all its lines, or which of the well-known sentences. -/
def written (c : Config) (lines : List Log.Line) : List (String × Json) :=
  let l := c.telemetry.logging
  match l.format with
  | .json => [("log", .array (lines.map (logLine l.fileLineInfo))), ("pretty", .array [])]
  | .pretty =>
    [("log", .array []), ("pretty", texts (known.filter fun m => lines.any fun l => l.message = m))]

end Ingress.Report
