import Mathlib.Algebra.Group.Nat.Defs
import Ingress.Time.Duration

/-!
# Durations in machine words

A machine keeps a duration as whole seconds and the nanoseconds of the rest, in words of limited
size. Some of its steps stop at the largest duration on purpose; any other step that does not fit
its word goes wrong, and has no value here. What durations are made of never goes wrong, and comes
to the same as the arithmetic on nanoseconds.
-/

namespace Ingress

/-- A number in a word of so many bits; nothing where it does not fit. -/
def word? (bits n : Nat) : Option Nat := if n < 2 ^ bits then some n else none

theorem word?_of_lt {bits n : Nat} (fits : n < 2 ^ bits) : word? bits n = some n := if_pos fits

theorem word?_of_le {bits n : Nat} (large : 2 ^ bits ≤ n) : word? bits n = none :=
  if_neg (Nat.not_lt_of_le large)

/-- A number, or the largest one that fits a word. -/
theorem getD_word? (bits n : Nat) : (word? bits n).getD (2 ^ bits - 1) = min n (2 ^ bits - 1) := by
  have positive : 0 < 2 ^ bits := Nat.two_pow_pos bits
  by_cases fits : n < 2 ^ bits
  · rw [word?_of_lt fits, Option.getD_some]
    omega
  · rw [word?_of_le (Nat.le_of_not_lt fits), Option.getD_none]
    omega

namespace Duration

/-- A duration in words: 64 bits for the seconds, 32 bits for the rest. -/
structure Words where
  secs : Nat
  rest : Nat
deriving DecidableEq

/-- The words of a duration. -/
def words (d : Duration) : Words := ⟨d.nanos / 1_000_000_000, d.nanos % 1_000_000_000⟩

namespace Words

/-- The largest duration. -/
def largest : Words := ⟨UInt64.size - 1, 999_999_999⟩

/-- So many seconds and some more that the rest comes to; the largest duration where the seconds do
not fit their word. -/
def carry (secs more rest : Nat) : Words :=
  match (word? 64 secs).bind fun secs => word? 64 (secs + more) with
  | some secs => ⟨secs, rest⟩
  | none => largest

/-- A duration repeated, or the largest one. -/
def times (d : Words) (n : Nat) : Option Words := do
  let nanos ← word? 64 (d.rest * n)
  pure (carry (d.secs * n) (nanos / 1_000_000_000) (nanos % 1_000_000_000))

/-- The sum of two durations, or the largest one. -/
def add (a b : Words) : Option Words := do
  let rest ← word? 32 (a.rest + b.rest)
  pure (if rest < 1_000_000_000 then carry (a.secs + b.secs) 0 rest
    else carry (a.secs + b.secs) 1 (rest - 1_000_000_000))

/-- The shorter of two durations. -/
def shorter (a b : Words) : Words :=
  if b.secs < a.secs ∨ b.secs = a.secs ∧ b.rest < a.rest then b else a

/-- The whole microseconds in a duration. -/
def micros (d : Words) : Option Nat := do
  let whole ← word? 128 (d.secs * 1_000_000)
  word? 128 (whole + d.rest / 1000)

/-- The duration of so many microseconds. -/
def ofMicros (n : Nat) : Option Words := do
  let rest ← word? 32 (n % 1_000_000 * 1000)
  pure ⟨n / 1_000_000, rest⟩

end Words

section Fit

variable (d : Duration)

theorem secs_words_lt : d.words.secs < UInt64.size :=
  Nat.div_lt_of_lt_mul (Nat.mul_comm _ _ ▸ d.nanos_lt)

theorem rest_words_lt : d.words.rest < 1_000_000_000 := Nat.mod_lt _ (by decide)

theorem nanos_eq_words : d.nanos = d.words.secs * 1_000_000_000 + d.words.rest :=
  (Nat.div_add_mod' d.nanos 1_000_000_000).symm

end Fit

/-- Words are those of a duration when its nanoseconds are what they say. -/
theorem words_eq {d : Duration} {secs rest : Nat} (small : rest < 1_000_000_000)
    (nanos : d.nanos = secs * 1_000_000_000 + rest) : d.words = ⟨secs, rest⟩ := by
  rw [words, nanos]
  congr 1 <;> omega

theorem carry_eq {secs more rest : Nat} (small : rest < 1_000_000_000) :
    Words.carry secs more rest = (ofNanos ((secs + more) * 1_000_000_000 + rest)).words := by
  have size : UInt64.size = 2 ^ 64 := rfl
  have nanos := nanos_ofNanos ((secs + more) * 1_000_000_000 + rest)
  rw [maxNanos, size] at nanos
  by_cases fits : secs + more < 2 ^ 64
  · have whole :
        (word? 64 secs).bind (fun secs => word? 64 (secs + more)) = some (secs + more) := by
      rw [word?_of_lt (by omega), Option.bind_some, word?_of_lt fits]
    rw [Words.carry, whole]
    refine (words_eq small (nanos.trans (Nat.min_eq_left ?_))).symm
    omega
  · have beyond : (word? 64 secs).bind (fun secs => word? 64 (secs + more)) = none := by
      by_cases first : secs < 2 ^ 64
      · rw [word?_of_lt first, Option.bind_some, word?_of_le (Nat.le_of_not_lt fits)]
      · rw [word?_of_le (Nat.le_of_not_lt first), Option.bind_none]
    rw [Words.carry, beyond]
    refine (words_eq (by decide) (nanos.trans ((Nat.min_eq_right ?_).trans ?_))).symm
    · omega
    · decide

/-- To repeat a duration so many times as a word of 32 bits can say never goes wrong: the product of
the rest fits 64 bits. -/
theorem times_words (d : Duration) {n : Nat} (fits : n < 2 ^ 32) :
    d.words.times n = some (d.times n).words := by
  have small := d.rest_words_lt
  have product : d.words.rest * n < 2 ^ 64 :=
    Nat.lt_of_le_of_lt (Nat.mul_le_mul (Nat.le_of_lt small) (Nat.le_of_lt fits)) (by decide)
  have nanos : (d.words.secs * n + d.words.rest * n / 1_000_000_000) * 1_000_000_000
      + d.words.rest * n % 1_000_000_000 = d.nanos * n := by
    have split := Nat.div_add_mod' (d.words.rest * n) 1_000_000_000
    rw [d.nanos_eq_words, Nat.add_mul, Nat.mul_right_comm, ← split, Nat.add_mul]
    omega
  simp only [Words.times, word?_of_lt product, Option.pure_def, Option.bind_eq_bind,
    Option.bind_some]
  rw [carry_eq (Nat.mod_lt _ (by decide)), nanos]
  rfl

/-- To add two durations never goes wrong: the sum of the rests fits 32 bits. -/
theorem add_words (a b : Duration) : a.words.add b.words = some (a.add b).words := by
  have small := a.rest_words_lt
  have small' := b.rest_words_lt
  have sum : a.words.rest + b.words.rest < 2 ^ 32 := by omega
  have nanos := a.nanos_eq_words
  have nanos' := b.nanos_eq_words
  simp only [Words.add, word?_of_lt sum, Option.pure_def, Option.bind_eq_bind, Option.bind_some,
    Option.some.injEq]
  split
  · rename_i within
    rw [carry_eq within, add]
    exact congrArg (fun n => (ofNanos n).words) (by omega)
  · rw [carry_eq (by omega), add]
    exact congrArg (fun n => (ofNanos n).words) (by omega)

theorem shorter_words (a b : Duration) : a.words.shorter b.words = (a.min b).words := by
  have small := a.rest_words_lt
  have small' := b.rest_words_lt
  have nanos := a.nanos_eq_words
  have nanos' := b.nanos_eq_words
  unfold Words.shorter min
  split
  · rw [if_neg]
    omega
  · rw [if_pos]
    omega

theorem micros_words (d : Duration) : d.words.micros = some d.micros := by
  have large : d.words.secs < 2 ^ 64 := d.secs_words_lt
  have small := d.rest_words_lt
  have all : d.words.secs * 1_000_000 + d.words.rest / 1000 < 2 ^ 128 := by omega
  have whole := Nat.lt_of_le_of_lt (Nat.le_add_right _ _) all
  have same : d.words.secs * 1_000_000 + d.words.rest / 1000 = d.micros := by
    have nanos := d.nanos_eq_words
    rw [micros]
    omega
  change (word? 128 (d.words.secs * 1_000_000)).bind
    (fun whole => word? 128 (whole + d.words.rest / 1000)) = _
  rw [word?_of_lt whole, Option.bind_some, word?_of_lt all, same]

/-- A duration of microseconds that a word of 64 bits can say is told exactly. -/
theorem ofMicros_words {n : Nat} (fits : n < 2 ^ 64) :
    Words.ofMicros n = some (ofMicros n).words := by
  have size : UInt64.size = 2 ^ 64 := rfl
  have rest : n % 1_000_000 * 1000 < 2 ^ 32 := by omega
  have nanos : (ofMicros n).nanos = n / 1_000_000 * 1_000_000_000 + n % 1_000_000 * 1000 := by
    rw [ofMicros, nanos_ofNanos, maxNanos, size]
    refine (Nat.min_eq_left ?_).trans ?_ <;> omega
  simp only [Words.ofMicros, word?_of_lt rest, Option.pure_def, Option.bind_eq_bind,
    Option.bind_some]
  rw [words_eq (by omega) nanos]

end Duration

end Ingress
