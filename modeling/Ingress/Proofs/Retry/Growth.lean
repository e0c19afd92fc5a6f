import Ingress.Proofs.Config.Validity
import Ingress.Proofs.Retry.Backoff

/-!
# Growth of the waits

The random part of a wait is shorter than the first wait, and the factor grows by one at least, so
that a longer wait follows whatever is drawn. This ends where there is no longer wait or no larger
factor: at the largest duration, and from the thirty-third attempt on.
-/

namespace Ingress.Retry.Policy

theorem factor_lt_factor_succ {n : Nat} (first : 1 ≤ n) (early : n ≤ 32) :
    factor n < factor (n + 1) := by
  obtain ⟨k, rfl⟩ : ∃ k, n = k + 1 := ⟨n - 1, by omega⟩
  have doubled : 2 ^ (k + 1) = 2 ^ k * 2 := Nat.pow_succ 2 k
  have within : 2 ^ k ≤ 2 ^ 31 := Nat.pow_le_pow_right (by decide) (by omega)
  have positive : 0 < 2 ^ k := Nat.two_pow_pos k
  rw [factor_eq, factor_eq, Nat.add_sub_cancel, Nat.add_sub_cancel]
  omega

/-- Before the cut, the next wait is longer, whatever is drawn. -/
theorem uncut_lt (p : Policy) (positive : 0 < p.base.nanos) {n : Nat} (first : 1 ≤ n)
    (early : n ≤ 32) (draw draw' : Nat) :
    p.base.nanos * factor n + 1000 * p.part draw <
      p.base.nanos * factor (n + 1) + 1000 * p.part draw' := by
  have part := p.part_lt_base draw positive
  calc p.base.nanos * factor n + 1000 * p.part draw
    _ < p.base.nanos * factor n + p.base.nanos := Nat.add_lt_add_left part _
    _ = p.base.nanos * (factor n + 1) := (Nat.mul_succ _ _).symm
    _ ≤ p.base.nanos * factor (n + 1) := Nat.mul_le_mul_left _ (factor_lt_factor_succ first early)
    _ ≤ _ := Nat.le_add_right _ _

theorem backoff_lt_backoff_succ (p : Policy) (positive : 0 < p.base.nanos) {n : Nat}
    (first : 1 ≤ n) (early : n ≤ 32) (draw draw' : Nat)
    (short : (p.backoff n draw).nanos < Duration.maxNanos) :
    (p.backoff n draw).nanos < (p.backoff (n + 1) draw').nanos := by
  have grows := p.uncut_lt positive first early draw draw'
  rw [nanos_backoff] at short ⊢
  rw [nanos_backoff]
  omega

theorem backoff_succ_eq_max (p : Policy) (positive : 0 < p.base.nanos) {n : Nat}
    (first : 1 ≤ n) (early : n ≤ 32) (draw draw' : Nat)
    (largest : (p.backoff n draw).nanos = Duration.maxNanos) :
    (p.backoff (n + 1) draw').nanos = Duration.maxNanos := by
  have grows := p.uncut_lt positive first early draw draw'
  rw [nanos_backoff] at largest ⊢
  omega

theorem backoff_succ_of_le (p : Policy) {n : Nat} (late : 33 ≤ n) (draw : Nat) :
    p.backoff (n + 1) draw = p.backoff n draw := by
  simp only [backoff, factor_of_le late, factor_of_le (Nat.le_succ_of_le late)]

/-- In the policy of a valid configuration, up to the thirty-second attempt the next wait is longer
whatever is drawn, unless the wait is the largest duration already, and then the next one is the
largest too. From then on the same draw leads to the same wait. -/
theorem backoff_grows (c : Config) (valid : Config.validate c = .ok ()) :
    ∃ p, Config.policy? c.retry = .ok p ∧ ∀ n draw draw', 1 ≤ n →
      (n ≤ 32 → (p.backoff n draw).nanos < Duration.maxNanos →
        (p.backoff n draw).nanos < (p.backoff (n + 1) draw').nanos) ∧
      (n ≤ 32 → (p.backoff n draw).nanos = Duration.maxNanos →
        (p.backoff (n + 1) draw').nanos = Duration.maxNanos) ∧
      (33 ≤ n → p.backoff (n + 1) draw = p.backoff n draw) := by
  have sensible := Config.validate_eq_ok_iff.1 valid
  obtain ⟨p, isPolicy, -, -, -, positive⟩ := sensible.exists_policy
  refine ⟨p, isPolicy, fun n draw draw' first => ⟨fun early => ?_, fun early => ?_, fun late => ?_⟩⟩
  · exact backoff_lt_backoff_succ _ positive first early draw draw'
  · exact backoff_succ_eq_max _ positive first early draw draw'
  · exact backoff_succ_of_le _ late draw

/-- A service that sets nothing waits longer after its second attempt than after its first. -/
theorem backoff_grows_standard :
    Config.validate Config.standard = .ok () ∧
      ∃ p, Config.policy? Config.standard.retry = .ok p ∧
        ∀ draw', (p.backoff 1 7).nanos < (p.backoff 2 draw').nanos := by
  have valid := Config.validate_eq_ok_iff.2 Config.sensible_standard
  obtain ⟨p, isPolicy, grows⟩ := backoff_grows Config.standard valid
  refine ⟨valid, p, isPolicy, fun draw' => (grows 1 7 draw' (by decide)).1 (by decide) ?_⟩
  obtain ⟨-, rfl⟩ := Config.policy?_eq_ok_iff.1 isPolicy
  decide

/-- A configuration of a hundred attempts with this first wait and nothing random. -/
def tireless (baseBackoff : Nat) : Config :=
  { Config.standard with
    retry := { Config.Retry.standard with maxAttempts := 100, baseBackoff, jitter := 0 } }

theorem sensible_tireless {baseBackoff : Nat} (positive : 0 < baseBackoff) :
    Config.Sensible (tireless baseBackoff) :=
  { Config.sensible_standard with
    maxAttempts := Nat.succ_pos 99
    baseBackoff := positive }

/-- It is valid, and its waits are the first one repeated. -/
theorem exists_tireless_policy {baseBackoff : Nat} (positive : 0 < baseBackoff) :
    Config.validate (tireless baseBackoff) = .ok () ∧
      ∃ p, Config.policy? (tireless baseBackoff).retry = .ok p ∧ p.maxAttempts = 100 ∧
        ∀ n draw, p.backoff n draw = (Duration.ofMillis baseBackoff).times (factor n) := by
  have sensible := sensible_tireless positive
  obtain ⟨p, isPolicy, attempts, base, jitter, -⟩ := sensible.exists_policy
  have none : p.jitterMicros = 0 :=
    jitterMicros_of_zero (jitter.trans (congrArg Duration.ofNanos (Nat.zero_mul _)))
  refine ⟨Config.validate_eq_ok_iff.2 sensible, p, isPolicy, attempts, fun n draw => ?_⟩
  rw [backoff, if_pos none, base]
  rfl

/-- The waits of a valid configuration may stop growing: at the largest factor, and at the largest
duration. -/
theorem backoff_stalls :
    (Config.validate (tireless 1) = .ok () ∧
      ∃ p, Config.policy? (tireless 1).retry = .ok p ∧ p.maxAttempts = 100 ∧
        ∀ draw draw', p.backoff 34 draw' = p.backoff 33 draw) ∧
    Config.validate (tireless (2 ^ 63)) = .ok () ∧
      ∃ p, Config.policy? (tireless (2 ^ 63)).retry = .ok p ∧ p.maxAttempts = 100 ∧
        ∀ draw draw', p.backoff 13 draw' = p.backoff 12 draw := by
  obtain ⟨shortValid, p, isPolicy, attempts, backoff⟩ :=
    exists_tireless_policy (Nat.lt_add_one 0)
  obtain ⟨longValid, q, isPolicy', attempts', backoff'⟩ :=
    exists_tireless_policy (Nat.two_pow_pos 63)
  refine ⟨⟨shortValid, p, isPolicy, attempts, fun draw draw' => ?_⟩,
    longValid, q, isPolicy', attempts', fun draw draw' => ?_⟩
  · rw [backoff, backoff]
    decide
  · rw [backoff', backoff']
    decide

end Ingress.Retry.Policy
