/-!
# Stages of a request

A request passes through a fixed sequence of stages. It may be closed from any of them, and nothing
follows that.
-/

namespace Ingress.Pipeline

/-- How far a request has come. -/
inductive Stage
  /-- The request arrived. -/
  | received
  /-- Its trace and its root span exist. -/
  | traced
  /-- The handler runs under the deadline. -/
  | executing
  /-- The handler gave a response. -/
  | completed
  /-- The deadline came first. -/
  | timedOut
  /-- The handler failed or panicked. -/
  | failed
  /-- The failure has a status, a kind and messages. -/
  | classified
  /-- The final status is known. -/
  | responded
  /-- The request is counted and its root span finished. -/
  | spanClosed
deriving DecidableEq

namespace Stage

/-- All stages. -/
def all : List Stage :=
  [received, traced, executing, completed, timedOut, failed, classified, responded, spanClosed]

/-- The name of a stage in logs. -/
def name : Stage → String
  | received => "RECEIVED"
  | traced => "TRACED"
  | executing => "EXECUTING"
  | completed => "COMPLETED"
  | timedOut => "TIMED_OUT"
  | failed => "FAILED"
  | classified => "CLASSIFIED"
  | responded => "RESPONDED"
  | spanClosed => "SPAN_CLOSED"

/-- Whether no stage follows. -/
def isTerminal (s : Stage) : Bool := s = spanClosed

/-- Whether a request may pass from one stage to another. -/
def canAdvance : Stage → Stage → Bool
  | spanClosed, _ => false
  | _, spanClosed => true
  | received, traced => true
  | traced, executing => true
  | executing, completed | executing, timedOut | executing, failed => true
  | timedOut, classified | failed, classified => true
  | completed, responded | classified, responded => true
  | _, _ => false

end Stage

end Ingress.Pipeline
