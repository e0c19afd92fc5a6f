/-!
# Durations

A duration is a number of nanoseconds up to a largest one. Arithmetic that would leave the range
stops at its end.
-/

namespace Ingress

/-- A length of time. -/
structure Duration where
  nanos : Nat
  nanos_lt : nanos < UInt64.size * 1_000_000_000

namespace Duration

instance : DecidableEq Duration := fun a b =>
  if h : a.nanos = b.nanos then isTrue (by cases a; cases b; simp_all)
  else isFalse (fun e => h (e ▸ rfl))

/-- The largest duration in nanoseconds. -/
def maxNanos : Nat := UInt64.size * 1_000_000_000 - 1

/-- The duration of so many nanoseconds, or the largest one. -/
def ofNanos (n : Nat) : Duration :=
  ⟨min n maxNanos, Nat.lt_of_le_of_lt (Nat.min_le_right _ _) (by decide)⟩

/-- No time. -/
def zero : Duration := ofNanos 0

/-- The duration of so many microseconds. -/
def ofMicros (n : Nat) : Duration := ofNanos (n * 1000)

/-- The duration of so many milliseconds. -/
def ofMillis (n : Nat) : Duration := ofNanos (n * 1_000_000)

/-- The duration of so many seconds. -/
def ofSecs (n : Nat) : Duration := ofNanos (n * 1_000_000_000)

/-- The largest duration. -/
def max : Duration := ofNanos maxNanos

/-- The whole microseconds in a duration. -/
def micros (d : Duration) : Nat := d.nanos / 1000

/-- The whole milliseconds in a duration. -/
def millis (d : Duration) : Nat := d.nanos / 1_000_000

/-- The milliseconds that cover a duration. -/
def millisUp (d : Duration) : Nat := (d.nanos + (1_000_000 - 1)) / 1_000_000

/-- The shorter of two durations. -/
def min (a b : Duration) : Duration := if a.nanos ≤ b.nanos then a else b

/-- The sum of two durations. -/
def add (a b : Duration) : Duration := ofNanos (a.nanos + b.nanos)

/-- A duration repeated. -/
def times (d : Duration) (n : Nat) : Duration := ofNanos (d.nanos * n)

/-- The seconds of a duration as a floating point number: the whole seconds and the part of a second
are rounded apart. -/
def seconds (d : Duration) : Float :=
  Float.ofNat (d.nanos / 1_000_000_000) + Float.ofNat (d.nanos % 1_000_000_000) / 1000000000.0

theorem nanos_ofNanos (n : Nat) : (ofNanos n).nanos = Nat.min n maxNanos := rfl

theorem nanos_ofMillis_eq_zero {n : Nat} : (ofMillis n).nanos = 0 ↔ n = 0 := by
  have positive : 0 < maxNanos := by decide
  change Nat.min (n * 1_000_000) maxNanos = 0 ↔ n = 0
  simp only [Nat.min_def]
  split <;> omega

/-- Any milliseconds that fit in a word are a duration. -/
theorem nanos_ofMillis {n : Nat} (fits : n < UInt64.size) : (ofMillis n).nanos = n * 1_000_000 := by
  refine Nat.min_eq_left ?_
  change n * 1_000_000 ≤ UInt64.size * 1_000_000_000 - 1
  omega

theorem nanos_min (a b : Duration) : (min a b).nanos = Nat.min a.nanos b.nanos := by
  unfold min
  split <;> simp [Nat.min_def, *]

end Duration

end Ingress
