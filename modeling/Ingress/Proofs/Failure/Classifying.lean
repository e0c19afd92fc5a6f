import Ingress.Failure.Classification

/-!
# Classifying failures

Whatever a failure is and however it was labelled, clients are told the status of an error and at
least one message. Labels show as the context and nowhere else. A failure that does not come from
another service has the kind that goes with its status.
-/

namespace Ingress

namespace Classification

theorem isErrorStatus_iff {s : Nat} : isErrorStatus s ↔ 400 ≤ s ∧ s ≤ 599 := by
  simp [isErrorStatus]

theorem isErrorStatus_getD {chosen : Option Nat} (all : ∀ s ∈ chosen, isErrorStatus s) :
    isErrorStatus (chosen.getD 500) := by
  cases chosen with
  | none => rfl
  | some s => exact all s rfl

theorem isErrorStatus_errorStatus (chosen : Option Nat) : isErrorStatus (errorStatus chosen) := by
  refine isErrorStatus_getD fun s member => ?_
  exact (Option.filter_eq_some_iff.1 member).2

theorem errorStatus_of_isErrorStatus {s : Nat} (error : isErrorStatus s) :
    errorStatus (some s) = s := by
  rw [errorStatus, Option.filter_some_pos error, Option.getD_some]

theorem errorStatus_of_not_isErrorStatus {chosen : Option Nat}
    (none : ∀ s ∈ chosen, ¬ isErrorStatus s) : errorStatus chosen = 500 := by
  have dropped : chosen.filter isErrorStatus = .none := by
    rw [Option.filter_eq_none_iff]
    exact none
  rw [errorStatus, dropped]
  rfl

theorem isErrorStatus_ofDownstream (d : Downstream.Failure) :
    isErrorStatus (ofDownstream d).status := by
  unfold ofDownstream
  split
  · refine isErrorStatus_getD fun s member => ?_
    rcases Option.or_eq_some_iff.1 member with own | ⟨-, embedded⟩
    · exact (Option.filter_eq_some_iff.1 own).2
    · exact (Option.filter_eq_some_iff.1 embedded).2
  · rfl

theorem isErrorStatus_ofRoot (root : Failure) : isErrorStatus (ofRoot root).status := by
  cases root with
  | downstream d => exact isErrorStatus_ofDownstream d
  | internal fault =>
    obtain ⟨notes, base⟩ := fault
    cases base with
    | downstream d => exact isErrorStatus_ofDownstream d
    | message _ | trace _ => rfl
  | _ => simp only [ofRoot, isErrorStatus_errorStatus]

end Classification

namespace Failure

open Classification

/-- A status that is not of an error stands for no kind of its own. -/
theorem Kind.ofStatus_of_not_isErrorStatus {s : Nat} (other : ¬ isErrorStatus s) :
    ofStatus s = .internal := by
  unfold ofStatus
  split <;> first | rfl | exact absurd rfl other

theorem Kind.ofStatus_errorStatus (s : Nat) : ofStatus (errorStatus (some s)) = ofStatus s := by
  by_cases error : isErrorStatus s
  · rw [errorStatus_of_isErrorStatus error]
  · rw [errorStatus_of_not_isErrorStatus, ofStatus_of_not_isErrorStatus error]
    · rfl
    · rintro s ⟨⟩
      exact error

/-- The labels put around a failure, the outermost first. -/
def labels : Failure → List String
  | .labelled label inner => label :: inner.labels
  | _ => []

/-- The failed call that a failure comes from, raised as it is or under the notes of a fault. -/
def downstream? (f : Failure) : Option Downstream.Failure :=
  match f.root with
  | .downstream d => some d
  | .internal ⟨_, .downstream d⟩ => some d
  | _ => none

/-- A failure is its root under its labels. -/
theorem foldr_labels (f : Failure) : f.labels.foldr labelled f.root = f := by
  induction f with
  | labelled label inner ih => exact congrArg (labelled label) ih
  | _ => rfl

theorem labels_root (f : Failure) : f.root.labels = [] := by
  induction f with
  | labelled _ _ ih => exact ih
  | _ => rfl

theorem root_foldr (labels : List String) (f : Failure) :
    (labels.foldr labelled f).root = f.root := by
  induction labels with
  | nil => rfl
  | cons _ _ ih => exact ih

theorem label?_eq_head? (f : Failure) : f.label? = f.labels.head? := by cases f <;> rfl

theorem label?_foldr (f : Failure) (bare : f.labels = []) (labels : List String) :
    (labels.foldr labelled f).label? = labels.head? := by
  cases labels with
  | nil => rw [List.foldr_nil, label?_eq_head?, bare]
  | cons _ _ => rfl

theorem suppliedMessage?_foldr (labels : List String) (f : Failure) :
    (labels.foldr labelled f).suppliedMessage? = f.suppliedMessage? := by
  rw [suppliedMessage?, suppliedMessage?, root_foldr]

/-- Labels change nothing but the context. -/
theorem classify_foldr {f : Failure} (bare : f.labels = []) (labels : List String) :
    (labels.foldr labelled f).classify = { f.classify with context := labels.head? } := by
  simp only [classify, root_foldr, suppliedMessage?_foldr, label?_foldr f bare]

theorem classify_eq_root (f : Failure) :
    f.classify = { f.root.classify with context := f.labels.head? } := by
  have labelled := classify_foldr f.labels_root f.labels
  rwa [foldr_labels] at labelled

theorem isErrorStatus_classify (f : Failure) : isErrorStatus f.classify.status :=
  isErrorStatus_ofRoot f.root

section Own

/-! Of a failure that does not come from a failed call. -/

variable {f : Failure} (own : f.downstream? = none)
include own

theorem kind_classify : f.classify.kind = f.kind := by
  induction f with
  | labelled _ _ ih => exact ih own
  | downstream _ => cases own
  | internal fault =>
    obtain ⟨notes, base⟩ := fault
    cases base with
    | downstream _ => cases own
    | message _ | trace _ => rfl
  | _ => rfl

theorem status_classify : f.classify.status = errorStatus f.explicitStatus? := by
  induction f with
  | labelled _ _ ih => exact ih own
  | downstream _ => cases own
  | internal fault =>
    obtain ⟨notes, base⟩ := fault
    cases base with
    | downstream _ => cases own
    | message _ | trace _ => rfl
  | _ => rfl

theorem kind_eq_ofStatus : f.kind = Kind.ofStatus (errorStatus f.explicitStatus?) := by
  induction f with
  | labelled _ _ ih => exact ih own
  | downstream _ => cases own
  | status s _ => exact (Kind.ofStatus_errorStatus s).symm
  | _ => rfl

end Own

/-- What is told of a failure, whatever its labels and, if it is a fault, whatever its notes:

* its status is that of an error, and there is at least one message;
* its context is the outermost label, and all else is told of its root in the same way;
* a fault with a failed call at the bottom is told of as the failed call itself;
* a failure that does not come from a failed call has its own kind, which goes with the status; and
  the status is the one that the failure fixes, if that is of an error, or else 500. -/
theorem classify_settles (f : Failure) :
    (400 ≤ f.classify.status ∧ f.classify.status ≤ 599 ∧ f.classify.messages ≠ []) ∧
    (f.labels.foldr labelled f.root = f ∧ f.root.labels = [] ∧
      f.classify = { f.root.classify with context := f.labels.head? }) ∧
    (∀ notes d, f.root = .internal ⟨notes, .downstream d⟩ →
      f.classify = (f.labels.foldr labelled (.downstream d)).classify) ∧
    (f.downstream? = none →
      f.classify.kind = f.kind ∧ f.kind = Kind.ofStatus f.classify.status ∧
      (∀ s, f.explicitStatus? = some s → 400 ≤ s → s ≤ 599 → f.classify.status = s) ∧
      ((∀ s, f.explicitStatus? = some s → s < 400 ∨ 599 < s) → f.classify.status = 500)) := by
  obtain ⟨least, most⟩ := isErrorStatus_iff.1 f.isErrorStatus_classify
  refine ⟨⟨least, most, f.messages_ne_nil⟩, ⟨f.foldr_labels, f.labels_root, f.classify_eq_root⟩,
    fun notes d root => ?_, fun own => ?_⟩
  · rw [classify_foldr rfl, classify_eq_root f, root]
    rfl
  · have status := status_classify own
    refine ⟨kind_classify own, ?_, fun s chosen least most => ?_, fun none => ?_⟩
    · rw [status]
      exact kind_eq_ofStatus own
    · rw [status, chosen]
      exact errorStatus_of_isErrorStatus (isErrorStatus_iff.2 ⟨least, most⟩)
    · rw [status]
      refine errorStatus_of_not_isErrorStatus fun s chosen error => ?_
      have bounds := isErrorStatus_iff.1 error
      have outside := none s chosen
      omega

/-- A chosen status that is not of an error becomes 500 under its labels, and a failed call at the
bottom of a fault with two notes shows through them. -/
theorem classify_settles_labelled :
    let label := labelled "cats/find_one"
    let chosen : Failure := label (.labelled "owners/lookup" (.status 204 (some "no owner")))
    let call : Downstream.Failure := ⟨"GET", "http://owners", 3, .answered (.new 503 .empty)⟩
    let noted : Failure := label (.internal ⟨["loading owners", "retrying"], .downstream call⟩)
    (chosen.downstream? = none ∧ chosen.classify.kind = chosen.kind ∧
      chosen.classify.status = 500 ∧ chosen.classify.context = some "cats/find_one") ∧
    noted.classify = (label (.downstream call)).classify := by
  intro label chosen call noted
  obtain ⟨-, ⟨-, -, same⟩, -, own⟩ := classify_settles chosen
  obtain ⟨kind, -, -, outside⟩ := own rfl
  refine ⟨⟨rfl, kind, outside ?_, congrArg Classification.context same⟩, ?_⟩
  · rintro _ ⟨⟩
    exact .inl (by decide)
  · exact (classify_settles noted).2.2.1 _ call rfl

end Failure

end Ingress
