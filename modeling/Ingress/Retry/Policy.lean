import Ingress.Downstream.NetworkCode
import Ingress.Time.Duration

/-!
# Retry policies

Which failed attempts of an outbound call are worth another one, and how long to wait before it. The
wait doubles with every attempt. A random part is added that stays below the first wait, so that
every wait is longer than the one before.
-/

namespace Ingress.Retry

/-- The rules of retrying. -/
structure Policy where
  maxAttempts : Nat
  base : Duration
  /-- The wanted range of the random part. -/
  jitter : Duration
  attemptTimeout : Option Duration
  codes : List Downstream.NetworkCode
  statuses : List Nat
  /-- Whether all statuses from 500 to 599 are worth another attempt. -/
  serverErrors : Bool
  /-- The methods that are retried without being asked. -/
  methods : List String
  maxAttempts_pos : 1 ≤ maxAttempts

namespace Policy

/-- The statuses that are retried by default, next to all server errors. -/
def defaultStatuses : List Nat := [408, 429]

/-- The methods that are retried by default. -/
def defaultMethods : List String := ["GET", "HEAD", "OPTIONS", "PUT", "DELETE", "TRACE"]

/-- Three attempts, a tenth of a second before the second one. -/
def standard : Policy where
  maxAttempts := 3
  base := .ofMillis 100
  jitter := .ofMillis 100
  attemptTimeout := some (.ofSecs 10)
  codes := Downstream.NetworkCode.all
  statuses := defaultStatuses
  serverErrors := true
  methods := defaultMethods
  maxAttempts_pos := by decide

/-- Sets the number of attempts; there is one at least. -/
def withMaxAttempts (n : Nat) (p : Policy) : Policy :=
  { p with maxAttempts := max n 1, maxAttempts_pos := Nat.le_max_right n 1 }

/-- One attempt. -/
def once : Policy := standard.withMaxAttempts 1

/-- The range of the random part, which is no longer than the first wait. -/
def jitterRange (p : Policy) : Duration := p.jitter.min p.base

/-- Whether an answer of this status is worth another attempt. -/
def retriesStatus (p : Policy) (status : Nat) : Bool :=
  p.statuses.contains status || (p.serverErrors && 500 ≤ status && status ≤ 599)

/-- Whether a failure below HTTP is worth another attempt; one without a code never is. -/
def retriesCode (p : Policy) (code : Option Downstream.NetworkCode) : Bool :=
  code.any p.codes.contains

/-- Whether calls of this method are retried without being asked. -/
def retriesMethod (p : Policy) (method : String) : Bool := p.methods.contains method

/-- The largest factor of the first wait. -/
def maxFactor : Nat := UInt32.size - 1

/-- The factor of the first wait after a given attempt: it doubles, up to the largest one. The
attempts are counted from one. -/
def factor (attempt : Nat) : Nat :=
  if attempt - 1 < 32 then 1 <<< (attempt - 1) else maxFactor

/-- How many different random parts there are, in microseconds. -/
def jitterMicros (p : Policy) : Nat := min p.jitterRange.micros (UInt64.size - 1)

/-- The wait after a given attempt. The draw is any number; what counts of it is the remainder by
the number of random parts. -/
def backoff (p : Policy) (attempt draw : Nat) : Duration :=
  let wait := p.base.times (factor attempt)
  if p.jitterMicros = 0 then wait else wait.add (.ofMicros (draw % p.jitterMicros))

theorem factor_le (attempt : Nat) : factor attempt ≤ maxFactor := by
  unfold factor maxFactor UInt32.size
  split
  · rename_i h
    have : 2 ^ (attempt - 1) ≤ 2 ^ 31 := Nat.pow_le_pow_right (by decide) (by omega)
    rw [Nat.one_shiftLeft]
    omega
  · exact Nat.le_refl _

end Policy

end Ingress.Retry
