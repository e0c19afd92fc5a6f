import Ingress.Http.Address
import Ingress.Log.Line
import Ingress.Telemetry.Settings

/-!
# Telemetry of a process

A process has one log and one recorder of metrics, which are set up once. Setting one of them up
again is an error, and so is everything that keeps the scrape listener from starting. What was done
before an error stays done.
-/

namespace Ingress.Telemetry

/-- What keeps telemetry from starting. -/
inductive StartError
  | loggerTaken
  /-- A filter that cannot be read. -/
  | filter (directives : String)
  | noBounds
  | address (text : String)
  /-- A listener needs a runtime. -/
  | noRuntime
  /-- Another listener has the address. -/
  | addressTaken
  /-- There is a recorder already; `served` tells whether the new one was to be scraped. -/
  | recorderTaken (served : Bool)
deriving DecidableEq

namespace StartError

/-- An error in one sentence; a filter that cannot be read has none. -/
def message? : StartError → Option String
  | loggerTaken =>
    some "logging subscriber: a global default trace dispatcher has already been set"
  | filter _ => none
  | noBounds => some ("metrics recorder: " ++ Metrics.RecorderError.noBounds.message)
  | address text =>
    some ("invalid metrics listen address `" ++ text ++ "`: invalid socket address syntax")
  | noRuntime =>
    some ("metrics recorder: scrape listener needs a tokio runtime: there is no reactor running, "
      ++ "must be called from the context of a Tokio 1.x runtime")
  | addressTaken =>
    some ("metrics recorder: failed to create HTTP listener: Address already in use "
      ++ "(os error 98)")
  | recorderTaken true =>
    some ("metrics recorder: attempted to set a recorder after the metrics system was already "
      ++ "initialized")
  | recorderTaken false =>
    some ("metrics recorder: failed to install exporter as global recorder: attempted to set a "
      ++ "recorder after the metrics system was already initialized")

end StartError

/-- What a process has set up. -/
structure Host where
  /-- Whether listeners can run. -/
  hasRuntime : Bool
  /-- The filter that the environment asks for. -/
  askedFilter : Option String
  logger : Option Log.Logger
  hasRecorder : Bool
  /-- The addresses of listeners. -/
  listeners : List Http.Address
  /-- What the log shows, in order. -/
  lines : List Log.Line

/-- A process that has set up nothing. -/
def Host.start (hasRuntime : Bool) (askedFilter : Option String) : Host :=
  ⟨hasRuntime, askedFilter, none, false, [], []⟩

/-- A step of setting up; what was done before an error stays done. -/
abbrev Setup (ε α : Type) := ExceptT ε (StateM Host) α

namespace Host

/-- Shows events in the log, if there is one. -/
def show_ (es : List Log.Event) (p : Host) : Host :=
  match p.logger with
  | some l => { p with lines := p.lines ++ l.lines es }
  | none => p

/-- Shows a span with its events in the log, if there is one. -/
def showWithin (s : Log.Scope) (es : List Log.Event) (p : Host) : Host :=
  match p.logger with
  | some l => { p with lines := p.lines ++ l.linesWithin s es }
  | none => p

/-- The filter for the log: the one that the environment asks for, unless it is blank. -/
def directives (settings : LogSettings) (p : Host) : String :=
  match p.askedFilter with
  | some text => if Text.trim text = "" then settings.level else text
  | none => settings.level

end Host

/-- Shows an event in the log. -/
def report (e : Log.Event) : Setup ε Unit := modify (·.show_ [e])

/-- Sets up the log. -/
def startLogging (settings : LogSettings) : Setup StartError Unit := do
  if settings.enabled then
    let p ← get
    let directives := p.directives settings
    match Log.Filter.ofText? directives with
    | none => throw (.filter directives)
    | some filter =>
      if p.logger.isSome then throw .loggerTaken
      set { p with logger := some ⟨filter, settings.spanEvents⟩ }
      report (.loggingStarted settings.serviceName directives)

/-- Sets up the recorder of the process, and its listener if one is asked for. -/
def startMetrics (settings : MetricsSettings) : Setup StartError Metrics.Recorder := do
  match Metrics.Recorder.new settings.serviceName settings.bounds with
  | .error .noBounds => throw .noBounds
  | .ok recorder =>
    let p ← get
    match settings.listenAddress with
    | none =>
      if p.hasRecorder then throw (.recorderTaken false)
      set { p with hasRecorder := true }
    | some text =>
      match Http.Address.ofText? text with
      | none => throw (.address text)
      | some address =>
        if !p.hasRuntime then throw .noRuntime
        if address.port ≠ 0 ∧ p.listeners.contains address then throw .addressTaken
        if p.hasRecorder then throw (.recorderTaken true)
        set { p with hasRecorder := true, listeners := address :: p.listeners }
        report (.listenerStarted address.display)
    pure recorder

/-- Sets up log and metrics; the recorder is there if metrics are on. -/
def start (settings : Settings) : Setup StartError (Option Metrics.Recorder) := do
  startLogging settings.logging
  let recorder ←
    if settings.metrics.enabled then some <$> startMetrics settings.metrics else pure none
  report (.telemetryStarted settings.serviceName settings.environment recorder.isSome)
  pure recorder

end Ingress.Telemetry
