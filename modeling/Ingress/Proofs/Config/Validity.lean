import Ingress.Config.Validity
import Ingress.Proofs.Fallible

/-!
# What makes a configuration valid

A configuration passes the check when each of its settings makes sense by itself. The settings of
metrics that are off may be anything.
-/

namespace Ingress.Config

open Fallible

theorem refuse_eq_ok_iff {wrong : Bool} {why : Invalid} {u : Unit} :
    refuse wrong why = .ok u ↔ wrong = false := by
  cases wrong <;> simp [refuse]

theorem methods?_eq_ok_iff {r : Retry} {methods : List String} :
    methods? r = .ok methods ↔
      (∀ name ∈ r.methods, Http.isMethod (Text.upperAscii name)) ∧
        methods = r.methods.map Text.upperAscii := by
  unfold methods?
  induction r.methods generalizing methods with
  | nil =>
    rw [List.mapM_nil, pure_eq_ok_iff]
    exact ⟨fun same => ⟨List.forall_mem_nil _, same.symm⟩, fun h => h.2.symm⟩
  | cons name rest ih =>
    by_cases isMethod : Http.isMethod (Text.upperAscii name)
    · simp only [List.mapM_cons, isMethod, if_true, bind_eq_ok_iff, ih, Except.ok.injEq,
        exists_eq_left', pure_eq_ok_iff, List.forall_mem_cons, List.map_cons, true_and]
      constructor
      · rintro ⟨_, ⟨all, rfl⟩, rfl⟩
        exact ⟨all, rfl⟩
      · rintro ⟨all, rfl⟩
        exact ⟨_, ⟨all, rfl⟩, rfl⟩
    · simp [List.mapM_cons, isMethod, bind_eq_ok_iff]

theorem policy?_eq_ok_iff {r : Retry} {p : Ingress.Retry.Policy} :
    policy? r = .ok p ↔
      (∀ name ∈ r.methods, Http.isMethod (Text.upperAscii name)) ∧
        p = Ingress.Retry.Policy.withMaxAttempts r.maxAttempts
          { Ingress.Retry.Policy.standard with
            base := .ofMillis r.baseBackoff
            jitter := .ofMillis r.jitter
            attemptTimeout := r.attemptTimeout.map Duration.ofMillis
            codes := r.codes
            statuses := r.statuses
            serverErrors := r.serverErrors
            methods := r.methods.map Text.upperAscii } := by
  simp only [policy?, bind_eq_ok_iff, methods?_eq_ok_iff, pure_eq_ok_iff]
  constructor
  · rintro ⟨_, ⟨all, rfl⟩, rfl⟩
    exact ⟨all, rfl⟩
  · rintro ⟨all, rfl⟩
    exact ⟨_, ⟨all, rfl⟩, rfl⟩

/-- Every setting makes sense. -/
structure Sensible (c : Config) : Prop where
  defaultTimeout : c.pipeline.defaultTimeout ≠ some 0
  fallbackTimeout : 0 < c.pipeline.fallbackTimeout
  maxAttempts : 0 < c.retry.maxAttempts
  baseBackoff : 0 < c.retry.baseBackoff
  attemptTimeout : c.retry.attemptTimeout ≠ some 0
  statuses : ∀ s ∈ c.retry.statuses, 100 ≤ s ∧ s ≤ 599
  methods : ∀ name ∈ c.retry.methods, Http.isMethod (Text.upperAscii name)
  metrics : c.telemetry.metrics.enabled →
    (∀ address ∈ c.telemetry.metrics.listenAddress, Http.Address.isSocketAddress address) ∧
      c.telemetry.metrics.bounds ≠ []

theorem checkMetrics_eq_ok_iff {m : Metrics} {u : Unit} :
    checkMetrics m = .ok u ↔ (m.enabled →
      (∀ address ∈ m.listenAddress, Http.Address.isSocketAddress address) ∧ m.bounds ≠ []) := by
  unfold checkMetrics
  cases m.enabled with
  | false => simp
  | true =>
    cases m.listenAddress with
    | none => simp [refuse_eq_ok_iff]
    | some address => simp [bind_eq_ok_iff, refuse_eq_ok_iff]

theorem find?_statuses_eq_none_iff {statuses : List Nat} :
    statuses.find? (fun s => s < 100 ∨ 599 < s) = none ↔ ∀ s ∈ statuses, 100 ≤ s ∧ s ≤ 599 := by
  simp

/-- Exactly the configurations whose settings all make sense pass the check. -/
theorem validate_eq_ok_iff {c : Config} : validate c = .ok () ↔ Sensible c := by
  unfold validate
  simp only [bind_eq_ok_iff, refuse_eq_ok_iff, exists_const, decide_eq_false_iff_not,
    ← Nat.pos_iff_ne_zero]
  split
  · rename_i s found
    constructor
    · rintro ⟨-, -, -, -, -, checked⟩
      simp [throw, throwThe, MonadExceptOf.throw, bind_eq_ok_iff] at checked
    · intro sensible
      rw [find?_statuses_eq_none_iff.2 sensible.statuses] at found
      cases found
  · rename_i found
    have statuses := find?_statuses_eq_none_iff.1 found
    simp only [bind_eq_ok_iff, policy?_eq_ok_iff, checkMetrics_eq_ok_iff]
    constructor
    · rintro ⟨defaultTimeout, fallbackTimeout, maxAttempts, baseBackoff, attemptTimeout,
        _, ⟨methods, -⟩, metrics⟩
      exact ⟨defaultTimeout, fallbackTimeout, maxAttempts, baseBackoff, attemptTimeout, statuses,
        methods, metrics⟩
    · intro c
      exact ⟨c.defaultTimeout, c.fallbackTimeout, c.maxAttempts, c.baseBackoff, c.attemptTimeout,
        _, ⟨c.methods, rfl⟩, c.metrics⟩

/-- Where the limits and the rules of retrying are those of a valid configuration the metrics
decide. -/
theorem Sensible.validate_eq_checkMetrics {c c' : Config} (sensible : Sensible c)
    (pipeline : c'.pipeline = c.pipeline) (retry : c'.retry = c.retry) :
    validate c' = checkMetrics c'.telemetry.metrics := by
  have policy := policy?_eq_ok_iff.2 ⟨sensible.methods, rfl⟩
  simp only [validate, pipeline, retry, refuse, sensible.defaultTimeout, policy,
    Nat.ne_of_gt sensible.fallbackTimeout, Nat.ne_of_gt sensible.maxAttempts,
    Nat.ne_of_gt sensible.baseBackoff, sensible.attemptTimeout,
    find?_statuses_eq_none_iff.2 sensible.statuses]
  rfl

/-- A valid configuration leads to a policy with the numbers that it sets, and the policy waits. -/
theorem Sensible.exists_policy {c : Config} (sensible : Sensible c) :
    ∃ p, policy? c.retry = .ok p ∧ p.maxAttempts = c.retry.maxAttempts ∧
      p.base = .ofMillis c.retry.baseBackoff ∧ p.jitter = .ofMillis c.retry.jitter ∧
      0 < p.base.nanos := by
  refine ⟨_, policy?_eq_ok_iff.2 ⟨sensible.methods, rfl⟩, Nat.max_eq_left sensible.maxAttempts,
    rfl, rfl, Nat.pos_of_ne_zero fun none => ?_⟩
  have := Duration.nanos_ofMillis_eq_zero.1 none
  exact Nat.ne_of_gt sensible.baseBackoff this

theorem sensible_standard : Sensible standard where
  defaultTimeout := by decide
  fallbackTimeout := by decide
  maxAttempts := by decide
  baseBackoff := by decide
  attemptTimeout := by decide
  statuses := by decide
  methods := by decide +kernel
  metrics := fun _ => ⟨by decide, List.cons_ne_nil _ _⟩

end Ingress.Config
