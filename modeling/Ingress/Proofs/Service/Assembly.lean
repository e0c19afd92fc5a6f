import Ingress.Proofs.Config.Validity
import Ingress.Service.Basic

/-!
# Putting services together

The check of a configuration and the assembly of a service look at different things: the check lets
everything pass about metrics that are off, but a service alone keeps metrics of its own anyway. So
a service comes from every valid configuration that has bounds for its metrics, and its parts are as
the configuration says.
-/

namespace Ingress.Service

open Config (Sensible)
open Fallible

theorem exists_ownRecorder_iff {c : Config} :
    (∃ recorder, ownRecorder c = .ok recorder) ↔ c.telemetry.metrics.bounds ≠ [] := by
  unfold ownRecorder Metrics.Recorder.new Config.metricsSettings
  cases c.telemetry.metrics.bounds <;> simp

theorem assemble_eq_ok_iff {c : Config} {recorder : Metrics.Recorder} {isShared : Bool}
    {s : Service} :
    assemble c recorder isShared = .ok s ↔ ∃ policy, Config.policy? c.retry = .ok policy ∧
      s = ⟨⟨c.pipeline.limit⟩, policy, recorder, isShared⟩ := by
  simp only [assemble, bind_eq_ok_iff, pure_eq_ok_iff, eq_comm (a := s)]
  rfl

/-- A service comes together where the check passes and each part can be made. -/
theorem alone_eq_ok_iff {c : Config} {s : Service} :
    alone c = .ok s ↔ Sensible c ∧ ∃ recorder, ownRecorder c = .ok recorder ∧
      ∃ policy, Config.policy? c.retry = .ok policy ∧
        s = ⟨⟨c.pipeline.limit⟩, policy, recorder, false⟩ := by
  simp only [alone, bind_eq_ok_iff, mapError_eq_ok_iff, assemble_eq_ok_iff,
    ← Config.validate_eq_ok_iff]
  exact ⟨fun ⟨(), made⟩ => made, fun made => ⟨(), made⟩⟩

/-- The parts of a service are as a configuration says. Numbers of milliseconds that do not fit in a
word come to the largest duration; a configuration that was read has none. -/
structure Follows (s : Service) (c : Config) : Prop where
  deadline : s.deadline.default =
    .ofMillis (c.pipeline.defaultTimeout.getD c.pipeline.fallbackTimeout)
  deadline_nanos : c.pipeline.defaultTimeout.getD c.pipeline.fallbackTimeout < UInt64.size →
    s.deadline.default.nanos =
      c.pipeline.defaultTimeout.getD c.pipeline.fallbackTimeout * 1_000_000
  deadline_pos : 0 < s.deadline.default.nanos
  maxAttempts : s.policy.maxAttempts = c.retry.maxAttempts
  maxAttempts_pos : 1 ≤ s.policy.maxAttempts
  base_pos : 0 < s.policy.base.nanos
  jitterRange_le : s.policy.jitterRange.nanos ≤ s.policy.base.nanos

theorem limit_pos_of_sensible {c : Config} (sensible : Sensible c) :
    0 < c.pipeline.limit.nanos := by
  refine Nat.pos_of_ne_zero (mt Duration.nanos_ofMillis_eq_zero.1 ?_)
  have fallback := sensible.fallbackTimeout
  have default := sensible.defaultTimeout
  cases set : c.pipeline.defaultTimeout with
  | none => exact Nat.ne_of_gt fallback
  | some limit => exact fun none => default (set.trans (congrArg some none))

theorem follows_of_alone {c : Config} {s : Service} (made : alone c = .ok s) : s.Follows c := by
  obtain ⟨sensible, recorder, -, policy, isPolicy, rfl⟩ := alone_eq_ok_iff.1 made
  obtain ⟨p, same, attempts, -, -, positive⟩ := sensible.exists_policy
  obtain rfl : policy = p := Except.ok.inj (isPolicy.symm.trans same)
  refine ⟨rfl, Duration.nanos_ofMillis, limit_pos_of_sensible sensible, attempts,
    policy.maxAttempts_pos, positive, ?_⟩
  rw [Retry.Policy.jitterRange, Duration.nanos_min]
  exact Nat.min_le_right _ _

/-- A service alone comes from exactly the valid configurations that have bounds for the metrics,
and it follows its configuration. -/
theorem alone_follows (c : Config) :
    ((∃ s, alone c = .ok s) ↔
      Config.validate c = .ok () ∧ c.telemetry.metrics.bounds ≠ []) ∧
    ∀ s, alone c = .ok s → s.Follows c := by
  refine ⟨?_, fun s => follows_of_alone⟩
  simp only [alone_eq_ok_iff, Config.validate_eq_ok_iff, ← exists_ownRecorder_iff]
  constructor
  · rintro ⟨s, sensible, recorder, kept, -⟩
    exact ⟨sensible, recorder, kept⟩
  · rintro ⟨sensible, recorder, kept⟩
    obtain ⟨policy, isPolicy, -⟩ := sensible.exists_policy
    exact ⟨_, sensible, recorder, kept, policy, isPolicy, rfl⟩

/-- A service that sets nothing makes three attempts. -/
theorem exists_alone_standard :
    ∃ s, alone Config.standard = .ok s ∧ s.policy.maxAttempts = 3 := by
  obtain ⟨exists_iff, follows⟩ := alone_follows Config.standard
  obtain ⟨s, made⟩ :=
    exists_iff.2 ⟨Config.validate_eq_ok_iff.2 Config.sensible_standard, List.cons_ne_nil _ _⟩
  exact ⟨s, made, (follows s made).maxAttempts⟩

/-- The metrics are off and have no bounds. -/
def unmeasured : Config :=
  { Config.standard with
    telemetry := { Config.Telemetry.standard with
      metrics := { Config.Metrics.standard with enabled := false, bounds := [] } } }

/-- Not every valid configuration leads to a service. -/
theorem alone_unmeasured :
    Config.validate unmeasured = .ok () ∧ alone unmeasured = .error (.recorder .noBounds) := by
  have valid : Config.validate unmeasured = .ok () :=
    Config.validate_eq_ok_iff.2 { Config.sensible_standard with metrics := nofun }
  refine ⟨valid, ?_⟩
  rw [alone, valid]
  rfl

end Ingress.Service
