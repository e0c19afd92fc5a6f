import Ingress.Failure.Classification
import Ingress.Proofs.Text.Lowercasing

/-!
# How violations are told

The message of a violation is what is told of the place followed by what is told of the reason. Each
of the two is lower-cased by itself, although the whole message is lower-cased at once, and nothing
in a message is left to be lower-cased.
-/

namespace Ingress.Classification

open Text

theorem isSmall_toString (n : Nat) : ∀ c ∈ (toString n).toList, IsSmall c := by
  intro c member
  rw [Nat.toString_eq_repr, Nat.toList_repr] at member
  exact isSmall_of_isDigit (Nat.isDigit_of_mem_toDigits (by decide) (by decide) member)

theorem isSmall_position (n : Nat) :
    ∀ c ∈ ("array position: " ++ toString n).toList, IsSmall c := by
  have words : ∀ c ∈ "array position: ".toList, IsSmall c := isSmall_of_all (by decide +kernel)
  intro c member
  rw [String.toList_append] at member
  rcases List.mem_append.1 member with word | digit
  · exact words c word
  · exact isSmall_toString n c digit

/-- The number of an element is told as it is written. -/
theorem lower_position (n : Nat) :
    lower ("array position: " ++ toString n) = "array position: " ++ toString n :=
  lower_eq_self (isSmall_position n)

theorem lower_position_property (n : Nat) :
    lower ("array position: " ++ toString n ++ ", property") =
      "array position: " ++ toString n ++ ", property" := by
  have words : ∀ c ∈ ", property".toList, IsSmall c := isSmall_of_all (by decide +kernel)
  refine lower_eq_self fun c member => ?_
  rw [String.toList_append] at member
  rcases List.mem_append.1 member with position | word
  · exact isSmall_position n c position
  · exact words c word

/-- What is told of the place of a violation, with what separates it from the reason. -/
def place : List Segment → String
  | [] => ""
  | [.index n] => "array position: " ++ toString n ++ ": "
  | .index n :: rest =>
    "array position: " ++ toString n ++ ", property: " ++ lower (Violation.dotted rest) ++ ": "
  | .key name :: rest => lower (Violation.dotted (.key name :: rest)) ++ ": "

/-- A message is told in two parts, of which one depends on the path and one on the reason. -/
theorem formatViolation_eq (v : Violation) :
    formatViolation v = place v.path ++ lower v.reason := by
  obtain ⟨path, reason⟩ := v
  match path with
  | [] => exact String.empty_append.symm
  | .key name :: rest => exact lower_append_colon _ _
  | [.index n] =>
    have parts := lower_append_colon ("array position: " ++ toString n) reason
    rw [lower_position] at parts
    exact parts
  | .index n :: next :: rest =>
    have front := lower_append_colon ("array position: " ++ toString n ++ ", property")
      (Violation.dotted (next :: rest))
    have parts := lower_append_colon ("array position: " ++ toString n ++ ", property" ++ ": "
      ++ Violation.dotted (next :: rest)) reason
    have colon : "array position: " ++ toString n ++ ", property" ++ ": " =
        "array position: " ++ toString n ++ ", property: " := by
      have words : ", property" ++ ": " = ", property: " := by decide
      rw [String.append_assoc, words]
    rw [lower_position_property, colon] at front
    rw [colon, front] at parts
    exact parts

/-- The message of a violation is put together from the path and the reason, each lower-cased by
itself: a path that begins with a name is told in front of a colon, one that begins with an index by
the position of the element and what follows in it, and an empty path not at all. What is told of
the place depends on the path alone, and no message has anything left to lower-case. -/
theorem formatViolation_composes :
    (∀ (name : String) (rest : List Segment) (reason : String),
      formatViolation ⟨.key name :: rest, reason⟩ =
        lower (Violation.dotted (.key name :: rest)) ++ ": " ++ lower reason) ∧
    (∀ (n : Nat) (reason : String),
      formatViolation ⟨[.index n], reason⟩ =
        "array position: " ++ toString n ++ ": " ++ lower reason) ∧
    (∀ (n : Nat) (next : Segment) (rest : List Segment) (reason : String),
      formatViolation ⟨.index n :: next :: rest, reason⟩ =
        "array position: " ++ toString n ++ ", property: "
          ++ lower (Violation.dotted (next :: rest)) ++ ": " ++ lower reason) ∧
    (∀ reason : String, formatViolation ⟨[], reason⟩ = lower reason) ∧
    (∃ front : List Segment → String, ∀ v : Violation,
      formatViolation v = front v.path ++ lower v.reason) ∧
    ∀ v : Violation, lower (formatViolation v) = formatViolation v := by
  refine ⟨?_, ?_, ?_, ?_, ⟨place, formatViolation_eq⟩, fun v => lower_lower _⟩
  · intro name rest reason
    exact formatViolation_eq ⟨.key name :: rest, reason⟩
  · intro n reason
    exact formatViolation_eq ⟨[.index n], reason⟩
  · intro n next rest reason
    exact formatViolation_eq ⟨.index n :: next :: rest, reason⟩
  · intro reason
    exact (formatViolation_eq ⟨[], reason⟩).trans String.empty_append

end Ingress.Classification
