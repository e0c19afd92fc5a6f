import Mathlib.Data.List.Nodup
import Ingress.Proofs.Schema.Conformance

/-!
# What reasons say

A reason names the type or the bound of a schema that a value does not keep to. What it says of the
schema and the value is so, and no value departs from its schema twice in the same words.
-/

namespace Ingress.Schema

namespace Reason

theorem message_eq_required_iff {r : Reason} : r.message = "Required" ↔ r = .required := by
  constructor
  · intro same
    have letters := congrArg String.toList same
    cases r <;> simp at letters ⊢
  · rintro rfl
    rfl

/-- The word for what was received is not `float` anywhere else. -/
theorem message_eq_fraction_iff {r : Reason} :
    r.message = "Expected integer, received float" ↔ r = .fraction := by
  constructor
  · intro same
    have letters := congrArg String.toList same
    cases r with
    | fraction => rfl
    | mismatch expected value =>
      have ends := congrArg List.reverse letters
      cases value <;> simp [typeName] at ends
    | _ => simp at letters
  · rintro rfl
    rfl

end Reason

/-- The type that a schema asks for. -/
def wanted : Schema → String
  | .string .. => "string"
  | .integer .. => "integer"
  | .number .. => "number"
  | .boolean .. => "boolean"
  | .array .. => "array"
  | .object .. => "object"

/-- The name of the type of the values that a schema may accept. -/
def acceptedType : Schema → String
  | .integer .. => "number"
  | s => s.wanted

/-- What a reason says of a schema and a value that the schema is for. -/
inductive Fact : Schema → Json → Reason → Prop
  | mismatch {s : Schema} {value : Json} :
    typeName value ≠ s.acceptedType → Fact s value (.mismatch s.wanted value)
  | fraction {r : Bool} {least most : Option Int} {n : Json.Number} :
    (∀ i, n = .int i → i < -2 ^ 63 ∨ 2 ^ 63 ≤ i) →
      Fact (.integer r least most) (.number n) .fraction
  | tooShort {r : Bool} {least : Nat} {most : Option Nat} {text : String} :
    text.length < least → Fact (.string r (some least) most) (.string text) (.tooShort least)
  | tooLong {r : Bool} {least : Option Nat} {most : Nat} {text : String} :
    most < text.length → Fact (.string r least (some most)) (.string text) (.tooLong most)
  | belowInteger {r : Bool} {least i : Int} {most : Option Int} :
    i < least → Fact (.integer r (some least) most) (.number (.int i)) (.belowInteger least)
  | aboveInteger {r : Bool} {least : Option Int} {most i : Int} :
    most < i → Fact (.integer r least (some most)) (.number (.int i)) (.aboveInteger most)
  | belowNumber {r : Bool} {least : Float} {most : Option Float} {n : Json.Number} :
    n.toFloat < least → Fact (.number r (some least) most) (.number n) (.belowNumber least)
  | aboveNumber {r : Bool} {least : Option Float} {most : Float} {n : Json.Number} :
    most < n.toFloat → Fact (.number r least (some most)) (.number n) (.aboveNumber most)
  | tooFew {r : Bool} {items : Schema} {least : Nat} {values : List Json} :
    values.length < least → Fact (.array r items (some least)) (.array values) (.tooFew least)

theorem mem_broken_iff {bound : Option α} {breaks : α → Bool} {reason : α → Reason} {r : Reason} :
    r ∈ broken bound breaks reason ↔ ∃ b, bound = some b ∧ breaks b ∧ r = reason b := by
  cases bound with
  | none => simp [broken]
  | some b => by_cases breaks b <;> simp_all [broken]

theorem reasons_of_other {s : Schema} {value : Json} (other : typeName value ≠ s.acceptedType) :
    reasons s value = [.mismatch s.wanted value] := by
  cases s <;> cases value <;> first | rfl | exact absurd rfl other

theorem fact_of_mem_integer {r : Bool} {least most : Option Int} {n : Json.Number} {why : Reason}
    (broken : why ∈ reasons (.integer r least most) (.number n)) :
    Fact (.integer r least most) (.number n) why := by
  rw [reasons] at broken
  cases narrow : n.toSigned? with
  | none =>
    rw [narrow] at broken
    cases List.mem_singleton.1 broken
    refine .fraction fun i same => ?_
    rw [same, Json.Number.toSigned?_int] at narrow
    have wide : ¬ (-2 ^ 63 ≤ i ∧ i < 2 ^ 63) := fun fits => by
      rw [if_pos fits] at narrow
      cases narrow
    omega
  | some i =>
    obtain rfl : n = .int i := by
      cases n with
      | float x => cases narrow
      | int j =>
        rw [Json.Number.toSigned?_int] at narrow
        split at narrow <;> cases narrow
        rfl
    rw [narrow, List.mem_append, mem_broken_iff, mem_broken_iff] at broken
    rcases broken with ⟨b, rfl, breaks, rfl⟩ | ⟨b, rfl, breaks, rfl⟩
    · exact .belowInteger (of_decide_eq_true breaks)
    · exact .aboveInteger (of_decide_eq_true breaks)

/-- What a reason of a departure says is so. -/
theorem fact_of_mem_reasons {s : Schema} {value : Json} {r : Reason}
    (broken : r ∈ reasons s value) : Fact s value r := by
  by_cases other : typeName value ≠ s.acceptedType
  · rw [reasons_of_other other] at broken
    cases List.mem_singleton.1 broken
    exact .mismatch other
  · have accepted := not_not.1 other
    cases s with
    | string =>
      cases value with
      | string text =>
        rw [reasons, List.mem_append, mem_broken_iff, mem_broken_iff] at broken
        rcases broken with ⟨b, rfl, breaks, rfl⟩ | ⟨b, rfl, breaks, rfl⟩
        · exact .tooShort (of_decide_eq_true breaks)
        · exact .tooLong (of_decide_eq_true breaks)
      | _ => simp [typeName, acceptedType, wanted] at accepted
    | integer =>
      cases value with
      | number n => exact fact_of_mem_integer broken
      | _ => simp [typeName, acceptedType] at accepted
    | number =>
      cases value with
      | number n =>
        rw [reasons, List.mem_append, mem_broken_iff, mem_broken_iff] at broken
        rcases broken with ⟨b, rfl, breaks, rfl⟩ | ⟨b, rfl, breaks, rfl⟩
        · exact .belowNumber (of_decide_eq_true breaks)
        · exact .aboveNumber (of_decide_eq_true breaks)
      | _ => simp [typeName, acceptedType, wanted] at accepted
    | boolean =>
      cases value with
      | bool b => cases broken
      | _ => simp [typeName, acceptedType, wanted] at accepted
    | array =>
      cases value with
      | array values =>
        rw [reasons, mem_broken_iff] at broken
        obtain ⟨b, rfl, breaks, rfl⟩ := broken
        exact .tooFew (of_decide_eq_true breaks)
      | _ => simp [typeName, acceptedType, wanted] at accepted
    | object =>
      cases value with
      | object members => cases broken
      | _ => simp [typeName, acceptedType, wanted] at accepted

/-- No value departs from its schema by being absent. -/
theorem ne_required_of_mem_reasons {s : Schema} {value : Json} {r : Reason}
    (broken : r ∈ reasons s value) : r ≠ .required := by
  rintro rfl
  cases fact_of_mem_reasons broken

theorem nodup_broken {bound : Option α} {breaks : α → Bool} {reason : α → Reason} :
    ((broken bound breaks reason).map Reason.message).Nodup := by
  cases bound with
  | none => exact List.nodup_nil
  | some b => by_cases breaks b <;> simp_all [broken]

theorem nodup_broken_append {least most : Option α} {below above : α → Bool}
    {low high : α → Reason} (differ : ∀ a b, (low a).message.toList ≠ (high b).message.toList) :
    ((broken least below low ++ broken most above high).map Reason.message).Nodup := by
  rw [List.map_append]
  refine List.Nodup.append nodup_broken nodup_broken ?_
  intro text isLow isHigh
  obtain ⟨_, broke, rfl⟩ := List.mem_map.1 isLow
  obtain ⟨_, brokeToo, same⟩ := List.mem_map.1 isHigh
  obtain ⟨a, -, -, rfl⟩ := mem_broken_iff.1 broke
  obtain ⟨b, -, -, rfl⟩ := mem_broken_iff.1 brokeToo
  exact differ a b (congrArg String.toList same.symm)

/-- No value departs from its schema twice in the same words. -/
theorem nodup_reasons (s : Schema) (value : Json) :
    ((reasons s value).map Reason.message).Nodup := by
  unfold reasons
  split
  · exact nodup_broken_append fun a b => by simp
  · exact List.nodup_singleton _
  · split
    · exact nodup_broken_append fun a b => by simp
    · exact List.nodup_singleton _
  · exact List.nodup_singleton _
  · exact nodup_broken_append fun a b => by simp
  · exact List.nodup_singleton _
  · exact List.nodup_nil
  · exact List.nodup_singleton _
  · exact nodup_broken
  · exact List.nodup_singleton _
  · exact List.nodup_nil
  · exact List.nodup_singleton _

end Ingress.Schema
