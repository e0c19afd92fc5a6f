import Mathlib.Data.List.Nodup
import Mathlib.Tactic.Common
import Ingress.Proofs.Schema.Departures

/-!
# The places of violations

A path leads from a body to one of its parts. The violations of a body are those of its places one
after the other, in the order in which a walk from the top down and from the left to the right comes
to them, and wherever a value stands it has the same violations but for the path to it.
-/

namespace Ingress

namespace Json

/-- What a path leads to in a value. -/
def follow? : List Segment → Json → Option Json
  | [], j => some j
  | .key name :: rest, .object members => (Dictionary.get? name members).bind (follow? rest)
  | .index n :: rest, .array items => items[n]?.bind (follow? rest)
  | _ :: _, _ => none

theorem follow?_append (first second : List Segment) (j : Json) :
    j.follow? (first ++ second) = (j.follow? first).bind (follow? second) := by
  induction first generalizing j with
  | nil => rfl
  | cons step rest ih =>
    cases step with
    | key name =>
      cases j with
      | object members =>
        rw [List.cons_append, follow?, follow?, Option.bind_assoc]
        exact Option.bind_congr fun part _ => ih part
      | _ => rfl
    | index n =>
      cases j with
      | array items =>
        rw [List.cons_append, follow?, follow?, Option.bind_assoc]
        exact Option.bind_congr fun part _ => ih part
      | _ => rfl

/-- The way to a place of a value leads over places of the value. -/
theorem exists_follow?_of_isPrefix {first path : List Segment} {j there : Json}
    (front : first <+: path) (leads : j.follow? path = some there) :
    ∃ above, j.follow? first = some above := by
  obtain ⟨rest, rfl⟩ := front
  rw [follow?_append] at leads
  obtain ⟨above, found, -⟩ := Option.bind_eq_some_iff.1 leads
  exact ⟨above, found⟩

theorem follow?_index {values : List Json} {n : Nat} {value : Json}
    (there : values[n]? = some value) (rest : List Segment) :
    (array values).follow? (.index n :: rest) = value.follow? rest := by
  rw [follow?, there, Option.bind_some]

end Json

namespace Violation

/-- A violation of a part, told of the value that a path leads to the part from. -/
def under (path : List Segment) (v : Violation) : Violation := { v with path := path ++ v.path }

theorem under_under (first second : List Segment) (v : Violation) :
    (v.under second).under first = v.under (first ++ second) := by
  rw [under, under, under, List.append_assoc]

theorem under_injective (path : List Segment) : Function.Injective (under path) := by
  intro v w same
  obtain ⟨ways, reasons⟩ := Violation.mk.inj same
  obtain ⟨way, reason⟩ := v
  exact congrArg₂ mk (List.append_cancel_left ways) reasons

end Violation

namespace Schema

/-- An element of an array or a declared property of an object, which the object may lack. -/
structure Component where
  step : Segment
  schema : Schema
  value? : Option Json

/-- The elements of an array or the declared properties of an object, in order. -/
def components : Schema → Json → List Component
  | .array _ items _, .array values =>
    values.zipIdx.map fun v => ⟨.index v.2, items, some v.1⟩
  | .object _ properties, .object members =>
    properties.entries.map fun p => ⟨.key p.1, p.2, Dictionary.get? p.1 members⟩
  | _, _ => []

/-- The violations of a component. One that is missing although it is required is one violation. -/
def Component.violations (c : Component) : List Violation :=
  match c.value? with
  | some value => c.schema.violations value
  | none => if c.schema.isRequired then [⟨[], "Required"⟩] else []

/-- Wherever a value stands, its violations are the same but for the path to it. -/
def Relocates (s : Schema) : Prop :=
  ∀ path value, departures s path value = (s.violations value).map (.under path)

theorem own_eq (s : Schema) (path : List Segment) (value : Json) :
    own s path value = (own s [] value).map (.under path) := by
  rw [own, own, List.map_map]
  refine List.map_congr_left fun r _ => ?_
  rw [Function.comp_apply, Violation.under, List.append_nil]

theorem Component.violations_of_some {c : Component} {value : Json} (here : c.value? = some value) :
    c.violations = c.schema.violations value := by
  rw [violations, here]

theorem Component.violations_of_none {c : Component} (missing : c.value? = none) :
    c.violations = if c.schema.isRequired then [⟨[], "Required"⟩] else [] := by
  rw [violations, missing]

theorem ofProperty_eq {p : String × Schema} (relocates : p.2.Relocates) (path : List Segment)
    (members : Dictionary Json) :
    ofProperty path members p =
      (Component.violations ⟨.key p.1, p.2, Dictionary.get? p.1 members⟩).map
        (.under (path ++ [.key p.1])) := by
  unfold ofProperty
  cases there : Dictionary.get? p.1 members with
  | some value =>
    rw [Component.violations_of_some rfl]
    dsimp only
    rw [relocates]
  | none =>
    rw [Component.violations_of_none rfl]
    cases p.2.isRequired with
    | true => simp [Violation.under]
    | false => rfl

theorem ofParts_eq {s : Schema} {value : Json}
    (relocate : ∀ c ∈ components s value, c.schema.Relocates) (path : List Segment) :
    ofParts s path value =
      (components s value).flatMap fun c => c.violations.map (.under (path ++ [c.step])) := by
  cases s with
  | array r items least =>
    cases value with
    | array values =>
      rw [ofParts, components, List.flatMap_map]
      refine List.flatMap_congr fun v member => ?_
      rw [Component.violations_of_some rfl]
      exact relocate ⟨.index v.2, items, some v.1⟩ (List.mem_map_of_mem member) _ v.1
    | _ => rfl
  | object r properties =>
    cases value with
    | object members =>
      rw [ofParts, components, List.flatMap_map]
      refine List.flatMap_congr fun p member => ofProperty_eq ?_ path members
      exact relocate ⟨.key p.1, p.2, Dictionary.get? p.1 members⟩ (List.mem_map_of_mem member)
    | _ => rfl
  | _ => rfl

theorem relocates_of_components {s : Schema}
    (relocate : ∀ value, ∀ c ∈ components s value, c.schema.Relocates) : s.Relocates := by
  intro path value
  have whole : s.violations value = departures s [] value := rfl
  rw [whole, departures_eq, departures_eq]
  split
  · rfl
  · rw [ofParts_eq (relocate value), ofParts_eq (relocate value), List.map_append, ← own_eq,
      List.map_flatMap]
    refine congrArg (own s path value ++ ·) (List.flatMap_congr fun c _ => ?_)
    rw [List.map_map]
    exact List.map_congr_left fun v _ => (Violation.under_under path [c.step] v).symm

theorem schema_of_mem_components {s : Schema} {value : Json} {c : Component}
    (member : c ∈ components s value) :
    (∃ r items least, s = .array r items least ∧ c.schema = items) ∨
      ∃ r properties name, s = .object r properties ∧ (name, c.schema) ∈ properties.entries := by
  unfold components at member
  split at member
  · obtain ⟨v, -, rfl⟩ := List.mem_map.1 member
    exact .inl ⟨_, _, _, rfl, rfl⟩
  · obtain ⟨p, declared, rfl⟩ := List.mem_map.1 member
    exact .inr ⟨_, _, p.1, rfl, declared⟩
  · cases member

/-- What holds of every schema if it holds of each one whose components it holds of. -/
theorem induction_on_components {motive : Schema → Prop}
    (step : ∀ s, (∀ value, ∀ c ∈ components s value, motive c.schema) → motive s) (s : Schema) :
    motive s := by
  induction s using induction with
  | array r items least ih =>
    refine step _ fun value c member => ?_
    rcases schema_of_mem_components member with ⟨_, _, _, ⟨⟩, same⟩ | ⟨_, _, _, ⟨⟩, _⟩
    exact same ▸ ih
  | object r properties ih =>
    refine step _ fun value c member => ?_
    rcases schema_of_mem_components member with ⟨_, _, _, ⟨⟩, _⟩ | ⟨_, _, name, ⟨⟩, declared⟩
    exact ih _ declared
  | _ => exact step _ fun value c member => by cases member

theorem relocates (s : Schema) : s.Relocates :=
  induction_on_components (fun _ => relocates_of_components) s

/-- The violations of a value are its own and then those of its components in order. -/
theorem violations_eq (s : Schema) (value : Json) :
    s.violations value =
      if value.isNull && !s.isRequired then []
      else (reasons s value).map (fun r => ⟨[], r.message⟩) ++
        (components s value).flatMap fun c => c.violations.map (.under [c.step]) := by
  have whole : s.violations value = departures s [] value := rfl
  rw [whole, departures_eq, ofParts_eq fun c _ => relocates c.schema]
  rfl

/-- A component is what its step leads to. -/
theorem follow?_component {s : Schema} {value : Json} {c : Component}
    (member : c ∈ components s value) (rest : List Segment) :
    value.follow? (c.step :: rest) = c.value?.bind (Json.follow? rest) := by
  unfold components at member
  split at member
  · obtain ⟨v, there, rfl⟩ := List.mem_map.1 member
    rw [Json.follow?_index (List.mk_mem_zipIdx_iff_getElem?.1 there), Option.bind_some]
  · obtain ⟨p, -, rfl⟩ := List.mem_map.1 member
    rw [Json.follow?]
  · cases member

/-- Only declared properties may be missing. -/
theorem lacks_component {s : Schema} {value : Json} {c : Component}
    (member : c ∈ components s value) (missing : c.value? = none) :
    ∃ name members, c.step = .key name ∧ value = .object members ∧
      Dictionary.get? name members = none := by
  unfold components at member
  split at member
  · obtain ⟨v, -, rfl⟩ := List.mem_map.1 member
    cases missing
  · obtain ⟨p, -, rfl⟩ := List.mem_map.1 member
    exact ⟨_, _, rfl, rfl, missing⟩
  · cases member

/-- The schemas in a schema with the paths to the values that they are for. -/
inductive Leads : Schema → List Segment → Schema → Prop
  | here {s : Schema} : Leads s [] s
  | element {r : Bool} {items t : Schema} {least : Option Nat} {n : Nat} {path : List Segment} :
    Leads items path t → Leads (.array r items least) (.index n :: path) t
  | property {r : Bool} {properties : Properties Schema} {name : String} {s t : Schema}
    {path : List Segment} :
    (name, s) ∈ properties.entries → Leads s path t →
      Leads (.object r properties) (.key name :: path) t

theorem leads_component {s t : Schema} {value : Json} {c : Component} {path : List Segment}
    (member : c ∈ components s value) (leads : Leads c.schema path t) :
    Leads s (c.step :: path) t := by
  unfold components at member
  split at member
  · obtain ⟨v, -, rfl⟩ := List.mem_map.1 member
    exact .element leads
  · obtain ⟨p, declared, rfl⟩ := List.mem_map.1 member
    exact .property declared leads
  · cases member

end Schema

end Ingress
