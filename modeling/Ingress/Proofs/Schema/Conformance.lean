import Mathlib.Algebra.Group.Int.Defs
import Mathlib.Tactic.Common
import Ingress.Failure.Classification
import Ingress.Schema.Validation
import Ingress.Proofs.Schema.Departures

/-!
# Conforming to a schema

A value conforms to a schema if nothing departs from it. What conforms is said here by rules of its
own, and these agree with checking: a value without departures conforms, a value that conforms has
none. A value that does not conform is refused, and clients are told one message for each departure.
-/

namespace Ingress

namespace Json.Number

theorem toSigned?_int (i : Int) :
    (int i).toSigned? = if -2 ^ 63 ≤ i ∧ i < 2 ^ 63 then some i else none := by
  have bounds : (-maxSigned - 1 ≤ i ∧ i ≤ maxSigned) ↔ (-2 ^ 63 ≤ i ∧ i < 2 ^ 63) := by
    simp only [maxSigned]
    omega
  rw [toSigned?]
  exact if_congr bounds rfl rfl

end Json.Number

namespace Schema

/-- A value that is neither below the least nor above the most, where there are such bounds. -/
def Within [LT α] (least most : Option α) (x : α) : Prop :=
  (∀ bound ∈ least, ¬ x < bound) ∧ ∀ bound ∈ most, ¬ bound < x

/-- The values that a schema accepts. Members of an object that are not declared do not matter. -/
inductive Conforms : Schema → Json → Prop
  | null {s : Schema} : s.isRequired = false → Conforms s .null
  | string {r : Bool} {least most : Option Nat} {text : String} :
    Within least most text.length → Conforms (.string r least most) (.string text)
  | integer {r : Bool} {least most : Option Int} {i : Int} :
    -2 ^ 63 ≤ i → i < 2 ^ 63 → Within least most i →
      Conforms (.integer r least most) (.number (.int i))
  | number {r : Bool} {least most : Option Float} {n : Json.Number} :
    Within least most n.toFloat → Conforms (.number r least most) (.number n)
  | boolean {r b : Bool} : Conforms (.boolean r) (.bool b)
  | array {r : Bool} {items : Schema} {least : Option Nat} {values : List Json} :
    (∀ bound ∈ least, bound ≤ values.length) → (∀ value ∈ values, Conforms items value) →
      Conforms (.array r items least) (.array values)
  | object {r : Bool} {properties : Properties Schema} {members : Dictionary Json} :
    (∀ p ∈ properties.entries, members.get? p.1 = none → p.2.isRequired = false) →
    (∀ p ∈ properties.entries, ∀ value, members.get? p.1 = some value → Conforms p.2 value) →
      Conforms (.object r properties) (.object members)

theorem conforms_null_iff {s : Schema} : s.Conforms .null ↔ s.isRequired = false := by
  constructor
  · intro conforms
    cases conforms with
    | null optional => exact optional
  · exact .null

theorem broken_eq_nil_iff {bound : Option α} {breaks : α → Bool} {reason : α → Reason} :
    broken bound breaks reason = [] ↔ ∀ b ∈ bound, breaks b = false := by
  cases bound with
  | none => simp [broken]
  | some b => simp [broken]

theorem broken_append_eq_nil_iff [LT α] [DecidableLT α] {least most : Option α} {x : α}
    {low high : α → Reason} :
    broken least (x < ·) low ++ broken most (· < x) high = [] ↔ Within least most x := by
  rw [List.append_eq_nil_iff, broken_eq_nil_iff, broken_eq_nil_iff, Within]
  simp only [decide_eq_false_iff_not]

theorem departures_eq_nil_iff_of_not_null {s : Schema} {path : List Segment} {value : Json}
    (present : value.isNull = false) :
    departures s path value = [] ↔ reasons s value = [] ∧ ofParts s path value = [] := by
  rw [departures_eq, present, Bool.false_and, if_neg Bool.false_ne_true, List.append_eq_nil_iff, own,
    List.map_eq_nil_iff]

theorem departures_null_eq_nil_iff (s : Schema) (path : List Segment) :
    departures s path .null = [] ↔ s.isRequired = false := by
  rw [departures_eq]
  cases required : s.isRequired with
  | false => simp [Json.isNull]
  | true => cases s <;> simp [Json.isNull, own, reasons]

theorem ofProperty_eq_nil_iff {path : List Segment} {members : Dictionary Json}
    {p : String × Schema}
    (part : ∀ path value, departures p.2 path value = [] ↔ p.2.Conforms value) :
    ofProperty path members p = [] ↔
      (members.get? p.1 = none → p.2.isRequired = false) ∧
        ∀ value, members.get? p.1 = some value → p.2.Conforms value := by
  unfold ofProperty
  cases members.get? p.1 with
  | some value => simp [part]
  | none => simp

theorem departures_eq_nil_iff_of_present {s : Schema} {path : List Segment} {value : Json}
    (of_present : value.isNull = false →
      (reasons s value = [] ∧ ofParts s path value = [] ↔ s.Conforms value)) :
    departures s path value = [] ↔ s.Conforms value := by
  cases null : value.isNull with
  | false => rw [departures_eq_nil_iff_of_not_null null, of_present null]
  | true =>
    cases value with
    | null => rw [departures_null_eq_nil_iff, conforms_null_iff]
    | _ => cases null

theorem reasons_integer_eq_nil_iff {r : Bool} {least most : Option Int} {n : Json.Number} :
    reasons (.integer r least most) (.number n) = [] ↔
      Conforms (.integer r least most) (.number n) := by
  cases n with
  | float x => exact iff_of_false nofun nofun
  | int i =>
    rw [reasons, Json.Number.toSigned?_int]
    by_cases fits : -2 ^ 63 ≤ i ∧ i < 2 ^ 63
    · rw [if_pos fits]
      dsimp only
      rw [broken_append_eq_nil_iff]
      constructor
      · exact .integer fits.1 fits.2
      · intro conforms
        cases conforms with
        | integer _ _ within => exact within
    · rw [if_neg fits]
      refine iff_of_false nofun fun conforms => fits ?_
      cases conforms with
      | integer low high _ => exact ⟨low, high⟩

theorem ofParts_array_eq_nil_iff {r : Bool} {items : Schema} {least : Option Nat}
    {path : List Segment} {values : List Json}
    (part : ∀ path value, departures items path value = [] ↔ items.Conforms value) :
    ofParts (.array r items least) path (.array values) = [] ↔
      ∀ value ∈ values, items.Conforms value := by
  rw [ofParts, List.flatMap_eq_nil_iff]
  simp only [part]
  constructor
  · intro clean value member
    obtain ⟨n, there⟩ := List.mem_iff_getElem?.1 member
    exact clean (value, n) (List.mk_mem_zipIdx_iff_getElem?.2 there)
  · intro conform v member
    exact conform v.1 (List.fst_mem_of_mem_zipIdx member)

theorem ofParts_object_eq_nil_iff {r : Bool} {properties : Properties Schema}
    {path : List Segment} {members : Dictionary Json}
    (parts : ∀ p ∈ properties.entries, ∀ path value,
      departures p.2 path value = [] ↔ p.2.Conforms value) :
    ofParts (.object r properties) path (.object members) = [] ↔
      Conforms (.object r properties) (.object members) := by
  rw [ofParts, List.flatMap_eq_nil_iff]
  constructor
  · intro clean
    have each := fun p member => (ofProperty_eq_nil_iff (parts p member)).1 (clean p member)
    exact .object (fun p member => (each p member).1) fun p member => (each p member).2
  · intro conforms p member
    cases conforms with
    | object absent present =>
      exact (ofProperty_eq_nil_iff (parts p member)).2 ⟨absent p member, present p member⟩

/-- There are no departures exactly from the schemas that a value conforms to. -/
theorem departures_eq_nil_iff (s : Schema) (path : List Segment) (value : Json) :
    departures s path value = [] ↔ s.Conforms value := by
  induction s using induction generalizing path value with
  | string r least most =>
    refine departures_eq_nil_iff_of_present fun present => ?_
    cases value with
    | null => cases present
    | string text =>
      rw [reasons, broken_append_eq_nil_iff]
      constructor
      · intro clean
        exact .string clean.1
      · intro conforms
        cases conforms with
        | string within => exact ⟨within, rfl⟩
    | _ => exact iff_of_false nofun nofun
  | integer r least most =>
    refine departures_eq_nil_iff_of_present fun present => ?_
    cases value with
    | null => cases present
    | number n =>
      rw [reasons_integer_eq_nil_iff]
      exact and_iff_left rfl
    | _ => exact iff_of_false nofun nofun
  | number r least most =>
    refine departures_eq_nil_iff_of_present fun present => ?_
    cases value with
    | null => cases present
    | number n =>
      rw [reasons, broken_append_eq_nil_iff]
      constructor
      · intro clean
        exact .number clean.1
      · intro conforms
        cases conforms with
        | number within => exact ⟨within, rfl⟩
    | _ => exact iff_of_false nofun nofun
  | boolean r =>
    refine departures_eq_nil_iff_of_present fun present => ?_
    cases value with
    | null => cases present
    | bool b => exact iff_of_true ⟨rfl, rfl⟩ .boolean
    | _ => exact iff_of_false nofun nofun
  | array r items least ih =>
    refine departures_eq_nil_iff_of_present fun present => ?_
    cases value with
    | null => cases present
    | array values =>
      rw [reasons, broken_eq_nil_iff, ofParts_array_eq_nil_iff ih]
      simp only [decide_eq_false_iff_not, Nat.not_lt]
      constructor
      · intro clean
        exact .array clean.1 clean.2
      · intro conforms
        cases conforms with
        | array enough conform => exact ⟨enough, conform⟩
    | _ => exact iff_of_false nofun nofun
  | object r properties ih =>
    refine departures_eq_nil_iff_of_present fun present => ?_
    cases value with
    | null => cases present
    | object members =>
      rw [ofParts_object_eq_nil_iff ih]
      exact and_iff_right rfl
    | _ => exact iff_of_false nofun nofun

theorem violations_eq_nil_iff (s : Schema) (value : Json) :
    s.violations value = [] ↔ s.Conforms value :=
  departures_eq_nil_iff s [] value

theorem validate_eq_ok_iff (s : Schema) (value : Json) :
    s.validate value = .ok () ↔ s.violations value = [] := by
  unfold validate
  split
  · next clean => exact iff_of_true rfl clean
  · next departs => exact iff_of_false nofun departs

theorem validate_eq_error_iff (s : Schema) (value : Json) (failure : Failure) :
    s.validate value = .error failure ↔
      s.violations value ≠ [] ∧ failure = .validation (s.violations value) := by
  unfold validate
  split
  · next clean => exact iff_of_false nofun fun refused => refused.1 clean
  · next departs =>
    constructor
    · rintro ⟨⟩
      exact ⟨departs, rfl⟩
    · rintro ⟨-, rfl⟩
      rfl

theorem classify_validation {violations : List Violation} (departs : violations ≠ []) :
    (Failure.validation violations).classify =
      ⟨400, .inputValidation, violations.map Classification.formatViolation, none, none⟩ := by
  cases violations with
  | nil => exact absurd rfl departs
  | cons first rest => rfl

/-- Checking finds nothing exactly in the values that conform to a schema, these are let through and
all others refused, and clients are told one message for each departure, in order. -/
theorem validate_decides_conformance (s : Schema) (value : Json) :
    (s.violations value = [] ↔ s.Conforms value) ∧
    (s.validate value = .ok () ↔ s.Conforms value) ∧
    ((∃ failure, s.validate value = .error failure) ↔ ¬ s.Conforms value) ∧
    ∀ failure, s.validate value = .error failure →
      failure.classify.status = 400 ∧ failure.classify.kind = .inputValidation ∧
      failure.classify.messages = (s.violations value).map Classification.formatViolation := by
  have clean := violations_eq_nil_iff s value
  refine ⟨clean, (validate_eq_ok_iff s value).trans clean, ?_, ?_⟩
  · rw [← clean]
    constructor
    · rintro ⟨failure, refused⟩
      exact ((validate_eq_error_iff s value failure).1 refused).1
    · intro departs
      exact ⟨_, (validate_eq_error_iff s value _).2 ⟨departs, rfl⟩⟩
  · intro failure refused
    obtain ⟨departs, rfl⟩ := (validate_eq_error_iff s value failure).1 refused
    rw [classify_validation departs]
    exact ⟨rfl, rfl, rfl⟩

/-- A list whose second element has no name and whose third is no object. -/
theorem validate_decides_conformance_list :
    let item : Schema := .object true (.ofPairs [("name", .string true (some 1) none)])
    let value : Json := .array [.object [("name", .string "é")], .object [], .null]
    ∃ failure, Schema.validate (.array true item none) value = .error failure ∧
      failure.classify.status = 400 ∧
      failure.classify.messages = ["array position: 1, property: name: required",
        "array position: 2: expected object, received null"] := by
  intro item value
  have decided := validate_decides_conformance (.array true item none) value
  refine ⟨_, rfl, ?_⟩
  obtain ⟨status, -, messages⟩ := decided.2.2.2 _ rfl
  refine ⟨status, messages.trans ?_⟩
  decide +kernel

end Schema

end Ingress
