import Ingress.Time.Duration

/-!
# The clock

Timers go off at whole milliseconds. Where the end of a limit or of a pause lies beyond the range of
the clock, an instant thirty years away stands for it.
-/

namespace Ingress.Clock

/-- The seconds that an instant may be away from the beginning of the clock. -/
def maxSecs : Nat := 0x7fffffffffffffff

/-- Thirty years in milliseconds: how far away the instant is that stands for one beyond the range of
the clock. -/
def farAway : Nat := 30 * 365 * 86400 * 1000

/-- The latest instant of a timer. -/
def latest : Nat := UInt64.size - 3

/-- Whether the clock can tell the instant that lies so far ahead. -/
def reaches (now : Nat) (ahead : Duration) : Bool :=
  now / 1000 + ahead.nanos / 1_000_000_000 < maxSecs

/-- The instant at which a pause of some length ends: never before its time, and less than a
millisecond after it. -/
def due (now : Nat) (length : Duration) : Nat :=
  if reaches now length then min (now + length.millisUp) latest else now + farAway

theorem le_due {now : Nat} (h : now ≤ latest) (length : Duration) : now ≤ due now length := by
  unfold due
  split
  · exact Nat.le_min.2 ⟨Nat.le_add_right _ _, h⟩
  · exact Nat.le_add_right _ _

end Ingress.Clock
