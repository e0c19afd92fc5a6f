import Ingress.Proofs.Time.Words
import Ingress.Retry.Policy

/-!
# Waits between attempts

The wait after a failed attempt is one formula over the nanoseconds of the first wait, cut off once
at the largest duration, although it is computed in steps each of which may stop at a largest value
of its own. No step goes wrong in machine words.
-/

namespace Ingress.Retry

open Duration (Words)

/-- What is drawn below a bound. Below nothing there is nothing to draw. -/
def drawn? (bound draw : Nat) : Option Nat := if bound = 0 then none else some (draw % bound)

namespace Policy

/-- The wait after a given attempt in the steps of a machine: the power of two in 32 bits, the
repeated wait, the microseconds of the random part in 128 and then 64 bits, the draw, the sum. -/
def backoffWords? (p : Policy) (attempt draw : Nat) : Option Words := do
  let factor := (word? 32 (2 ^ (attempt - 1))).getD (2 ^ 32 - 1)
  let wait ← p.base.words.times factor
  let micros ← (p.jitter.words.shorter p.base.words).micros
  let bound := (word? 64 micros).getD (2 ^ 64 - 1)
  if bound = 0 then pure wait
  else do
    let part ← Words.ofMicros (← drawn? bound draw)
    wait.add part

/-- The random part of a wait, in microseconds. -/
def part (p : Policy) (draw : Nat) : Nat := if p.jitterMicros = 0 then 0 else draw % p.jitterMicros

theorem factor_eq (attempt : Nat) : factor attempt = min (2 ^ (attempt - 1)) (2 ^ 32 - 1) := by
  unfold factor maxFactor
  split
  · rename_i few
    rw [Nat.one_shiftLeft]
    have within : 2 ^ (attempt - 1) ≤ 2 ^ 31 := Nat.pow_le_pow_right (by decide) (by omega)
    omega
  · rename_i many
    have beyond : 2 ^ 32 ≤ 2 ^ (attempt - 1) := Nat.pow_le_pow_right (by decide) (by omega)
    change 2 ^ 32 - 1 = _
    omega

theorem factor_mono {m n : Nat} (le : m ≤ n) : factor m ≤ factor n := by
  have powers : 2 ^ (m - 1) ≤ 2 ^ (n - 1) := Nat.pow_le_pow_right (by decide) (by omega)
  rw [factor_eq, factor_eq]
  omega

/-- From the thirty-third attempt on the factor is the largest one. -/
theorem factor_of_le {n : Nat} (late : 33 ≤ n) : factor n = maxFactor := if_neg (by omega)

theorem jitterMicros_eq (p : Policy) :
    p.jitterMicros = min (min p.jitter.nanos p.base.nanos / 1000) (2 ^ 64 - 1) :=
  congrArg (fun n => min (n / 1000) (2 ^ 64 - 1)) (Duration.nanos_min p.jitter p.base)

theorem jitterMicros_of_zero {p : Policy} (none : p.jitter = .zero) : p.jitterMicros = 0 := by
  simp [jitterMicros_eq, none, Duration.zero, Duration.nanos_ofNanos]

theorem part_lt_base (p : Policy) (draw : Nat) (positive : 0 < p.base.nanos) :
    1000 * p.part draw < p.base.nanos := by
  unfold part
  split
  · exact positive
  · rename_i some
    have below := Nat.mod_lt draw (Nat.pos_of_ne_zero some)
    have range := p.jitterMicros_eq
    omega

/-- The two cuts, of the repeated wait and of the sum, are one. -/
theorem nanos_backoff (p : Policy) (attempt draw : Nat) :
    (p.backoff attempt draw).nanos =
      min (p.base.nanos * factor attempt + 1000 * p.part draw) Duration.maxNanos := by
  unfold backoff part
  by_cases none : p.jitterMicros = 0
  · rw [if_pos none, if_pos none]
    rfl
  · rw [if_neg none, if_neg none]
    have range := p.jitterMicros_eq
    have below := Nat.mod_lt draw (Nat.pos_of_ne_zero none)
    have fits : draw % p.jitterMicros * 1000 ≤ Duration.maxNanos :=
      Nat.le_trans (Nat.mul_le_mul_right 1000 (n := draw % p.jitterMicros) (m := 2 ^ 64) (by omega))
        (by decide)
    change min (min _ _ + min _ _) _ = _
    omega

theorem backoffWords?_eq (p : Policy) (attempt draw : Nat) :
    p.backoffWords? attempt draw = some (p.backoff attempt draw).words := by
  have power : (word? 32 (2 ^ (attempt - 1))).getD (2 ^ 32 - 1) = factor attempt := by
    rw [getD_word?, factor_eq]
  have small : factor attempt < 2 ^ 32 := Nat.lt_of_le_of_lt (factor_le attempt) (by decide)
  have micros : (p.jitter.words.shorter p.base.words).micros = some p.jitterRange.micros := by
    rw [Duration.shorter_words, Duration.micros_words]
    rfl
  have bound : (word? 64 p.jitterRange.micros).getD (2 ^ 64 - 1) = p.jitterMicros := getD_word? 64 _
  simp only [backoffWords?, power, Duration.times_words p.base small, micros, bound,
    Option.bind_eq_bind, Option.bind_some, Option.pure_def]
  unfold backoff drawn?
  by_cases none : p.jitterMicros = 0
  · rw [if_pos none, if_pos none]
  · have below := Nat.mod_lt draw (Nat.pos_of_ne_zero none)
    have range := p.jitterMicros_eq
    have fits : draw % p.jitterMicros < 2 ^ 64 := by omega
    simp only [if_neg none, Option.bind_some, Duration.ofMicros_words fits, Duration.add_words]

/-- The wait after an attempt. Its steps in machine words have a value, and it is the first wait as
often as the power of two or the largest factor says, and the part that was drawn of the range, up
to the largest duration. Without a random part waits do not become shorter, and from the
thirty-third attempt on they are the same. -/
theorem backoff_exact (p : Policy) (attempt draw : Nat) :
    let range := min (min p.jitter.nanos p.base.nanos / 1000) (2 ^ 64 - 1)
    let plain (n : Nat) := ({ p with jitter := .zero } : Policy).backoff n draw
    p.backoffWords? attempt draw = some (p.backoff attempt draw).words ∧
    (∃ r, (p.backoff attempt draw).nanos =
        min (p.base.nanos * min (2 ^ (max attempt 1 - 1)) (2 ^ 32 - 1) + 1000 * r)
          (2 ^ 64 * 10 ^ 9 - 1) ∧
      (range = 0 → r = 0) ∧ (0 < range → r = draw % range ∧ r < range)) ∧
    (∀ m n, m ≤ n → (plain m).nanos ≤ (plain n).nanos) ∧
    ∀ n, 33 ≤ n → plain n = plain 33 := by
  intro range plain
  have plainPart : ({ p with jitter := .zero } : Policy).part draw = 0 :=
    if_pos (jitterMicros_of_zero rfl)
  refine ⟨p.backoffWords?_eq attempt draw, ⟨p.part draw, ?_, fun none => ?_, fun some => ?_⟩,
    fun m n le => ?_, fun n late => ?_⟩
  · have counted : max attempt 1 - 1 = attempt - 1 := by omega
    rw [nanos_backoff, factor_eq, counted]
    rfl
  · rw [part, if_pos (p.jitterMicros_eq.trans none)]
  · have same : p.jitterMicros = range := p.jitterMicros_eq
    have drawn : p.part draw = draw % range := by
      rw [part, if_neg (same ▸ Nat.ne_of_gt some), same]
    exact ⟨drawn, drawn ▸ Nat.mod_lt _ some⟩
  · have grows := Nat.mul_le_mul_left p.base.nanos (factor_mono le)
    simp only [plain, nanos_backoff, plainPart]
    omega
  · simp only [plain, backoff, factor_of_le late, factor_of_le (Nat.le_refl 33)]

end Policy

end Ingress.Retry
