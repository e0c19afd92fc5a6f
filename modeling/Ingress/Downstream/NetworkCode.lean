import Ingress.Json.Decoder

/-!
# Network failure codes

Why a call to another service failed below HTTP. Each code has its conventional name.
-/

namespace Ingress.Downstream

/-- A recognised network failure. -/
inductive NetworkCode
  | connectionAborted
  | connectionReset
  | connectionRefused
  | dnsFailure
  | timedOut
  | brokenPipe
  | networkUnreachable
  | hostUnreachable
deriving DecidableEq

/-- The kinds of failure that an operating system tells apart. -/
inductive IoFault
  | aborted
  | reset
  | refused
  | timedOut
  | brokenPipe
  | other
deriving DecidableEq

namespace NetworkCode

/-- All codes. -/
def all : List NetworkCode :=
  [connectionAborted, connectionReset, connectionRefused, dnsFailure, timedOut, brokenPipe,
    networkUnreachable, hostUnreachable]

/-- The conventional name. -/
def name : NetworkCode → String
  | connectionAborted => "ECONNABORTED"
  | connectionReset => "ECONNRESET"
  | connectionRefused => "ECONNREFUSED"
  | dnsFailure => "ENOTFOUND"
  | timedOut => "ETIMEDOUT"
  | brokenPipe => "EPIPE"
  | networkUnreachable => "ENETUNREACH"
  | hostUnreachable => "EHOSTUNREACH"

/-- The code of a name in any case. -/
def ofName? (s : String) : Option NetworkCode := all.find? fun c => Text.sameWord c.name s

/-- The sentence for a name that no code has. -/
def unknownMessage (s : String) : String := "unknown network error code: " ++ s

/-- The code of a failure that the operating system reports, if it is recognised. -/
def ofIoFault? : IoFault → Option NetworkCode
  | .aborted => some connectionAborted
  | .reset => some connectionReset
  | .refused => some connectionRefused
  | .timedOut => some timedOut
  | .brokenPipe => some brokenPipe
  | .other => none

/-- What a client is told about the failure. -/
def message : NetworkCode → String
  | connectionAborted => "Connection to downstream service was aborted"
  | connectionReset => "Connection to downstream service was reset"
  | connectionRefused => "Downstream service refused the connection"
  | dnsFailure => "Downstream service could not be resolved"
  | timedOut => "Downstream service timed out"
  | brokenPipe => "Connection to downstream service was interrupted"
  | networkUnreachable => "Downstream service is unreachable"
  | hostUnreachable => "Downstream service is unreachable"

/-- Reads a code by its exact name. -/
def decode : Json.Decoder NetworkCode :=
  Json.Decoder.choice (all.map fun c => (c.name, c))

end NetworkCode

end Ingress.Downstream
