import Mathlib.Data.List.Nodup
import Ingress.Proofs.Schema.Places
import Ingress.Proofs.Schema.Reasons

/-!
# What a list of violations says

Each violation stands at a place of the body, or at one that the body lacks although the schema
wants it, and what it says is so. No violation is told twice, since the properties of an object have
names of their own.
-/

namespace Ingress.Schema

/-- How a violation comes about: a value departs by itself from the schema that is for it, or an
object lacks a property that is required. -/
inductive Arises (s : Schema) (value : Json) : Violation → Prop
  | own {path : List Segment} {t : Schema} {there : Json} {r : Reason} :
    Leads s path t → value.follow? path = some there → (there.isNull → t.isRequired) →
      r ∈ reasons t there → Arises s value ⟨path, r.message⟩
  | absent {path : List Segment} {name : String} {t : Schema} {members : Dictionary Json} :
    Leads s (path ++ [.key name]) t → value.follow? path = some (.object members) →
      members.get? name = none → t.isRequired → Arises s value ⟨path ++ [.key name], "Required"⟩

theorem Arises.under {s : Schema} {value part : Json} {c : Component} {v : Violation}
    (member : c ∈ components s value) (here : c.value? = some part)
    (arises : c.schema.Arises part v) : s.Arises value (v.under [c.step]) := by
  have onwards (rest : List Segment) : value.follow? (c.step :: rest) = part.follow? rest := by
    rw [follow?_component member, here, Option.bind_some]
  cases arises with
  | own leads found present broken =>
    exact .own (leads_component member leads) ((onwards _).trans found) present broken
  | @absent path name t members leads found missing required =>
    have leads : Leads s (c.step :: path ++ [.key name]) t := leads_component member leads
    exact .absent leads ((onwards path).trans found) missing required

theorem arises_of_mem_component {s : Schema} {value : Json} {c : Component} {v : Violation}
    (member : c ∈ components s value)
    (ih : ∀ part, ∀ v ∈ c.schema.violations part, c.schema.Arises part v)
    (told : v ∈ c.violations) : s.Arises value (v.under [c.step]) := by
  cases here : c.value? with
  | some part =>
    rw [Component.violations_of_some here] at told
    exact .under member here (ih part v told)
  | none =>
    obtain ⟨name, members, step, rfl, missing⟩ := lacks_component member here
    rw [Component.violations_of_none here] at told
    split at told
    · next required =>
      cases List.mem_singleton.1 told
      have leads : Leads s ([] ++ [.key name]) c.schema := step ▸ leads_component member .here
      rw [step]
      exact .absent leads rfl missing required
    · cases told

/-- Every violation comes about at its place. -/
theorem arises_of_mem (s : Schema) :
    ∀ value, ∀ v ∈ s.violations value, s.Arises value v := by
  induction s using induction_on_components with
  | step s ih =>
    intro value v told
    rw [violations_eq] at told
    split at told
    · cases told
    · next looked =>
      have present : value.isNull → s.isRequired := by
        intro null
        simpa [null] using looked
      rcases List.mem_append.1 told with itself | below
      · obtain ⟨r, broken, rfl⟩ := List.mem_map.1 itself
        exact .own .here rfl present broken
      · obtain ⟨c, member, inside⟩ := List.mem_flatMap.1 below
        obtain ⟨w, toldInside, rfl⟩ := List.mem_map.1 inside
        exact arises_of_mem_component member (ih value c member) toldInside

/-- Each component has a step of its own. -/
theorem nodup_steps (s : Schema) (value : Json) :
    ((components s value).map Component.step).Nodup := by
  unfold components
  split
  · next values =>
    have positions : (values.zipIdx.map Prod.snd).Nodup := by
      rw [List.zipIdx_map_snd]
      exact List.nodup_range'
    have steps := positions.map fun _ _ => Segment.index.inj
    rw [List.map_map] at steps ⊢
    exact steps
  · next properties _ =>
    have steps := properties.nodup_entries.map fun _ _ => Segment.key.inj
    rw [List.map_map] at steps ⊢
    exact steps
  · exact List.nodup_nil

theorem nodup_component {c : Component}
    (part : ∀ value, (c.schema.violations value).Nodup) : c.violations.Nodup := by
  cases here : c.value? with
  | some value =>
    rw [Component.violations_of_some here]
    exact part value
  | none =>
    rw [Component.violations_of_none here]
    split
    · exact List.nodup_singleton _
    · exact List.nodup_nil

theorem nodup_flatMap_under {cs : List Component} (distinct : (cs.map Component.step).Nodup)
    (each : ∀ c ∈ cs, c.violations.Nodup) :
    (cs.flatMap fun c => c.violations.map (Violation.under [c.step])).Nodup := by
  refine List.nodup_flatMap.2 ⟨fun c member => ?_, ?_⟩
  · exact (each c member).map (Violation.under_injective _)
  · refine (List.pairwise_map.1 distinct).imp fun {c d} differ v ofFirst ofSecond => differ ?_
    obtain ⟨_, -, rfl⟩ := List.mem_map.1 ofFirst
    obtain ⟨_, -, same⟩ := List.mem_map.1 ofSecond
    exact (List.cons.inj (Violation.mk.inj same).1).1.symm

/-- No violation is told twice. -/
theorem nodup_violations (s : Schema) : ∀ value, (s.violations value).Nodup := by
  induction s using induction_on_components with
  | step s ih =>
    intro value
    rw [violations_eq]
    split
    · exact List.nodup_nil
    · refine List.Nodup.append ?_ ?_ ?_
      · have itself := (nodup_reasons s value).map (f := Violation.mk []) fun a b same => by
          exact (Violation.mk.inj same).2
        rwa [List.map_map] at itself
      · exact nodup_flatMap_under (nodup_steps s value) fun c member =>
          nodup_component (ih value c member)
      · intro v itself below
        obtain ⟨_, -, rfl⟩ := List.mem_map.1 itself
        obtain ⟨c, -, inside⟩ := List.mem_flatMap.1 below
        obtain ⟨_, -, same⟩ := List.mem_map.1 inside
        cases (Violation.mk.inj same).1

/-- The way to a violation leads over places of the body, and only a property that is missing there
is at its end without being one. -/
theorem Arises.place {s : Schema} {value : Json} {v : Violation} (arises : s.Arises value v) :
    (∀ front, front <+: v.path → front ≠ v.path → ∃ there, value.follow? front = some there) ∧
      (v.reason ≠ "Required" → ∃ there, value.follow? v.path = some there) ∧
      (v.reason = "Required" → ∃ path name members, v.path = path ++ [.key name] ∧
        value.follow? path = some (.object members) ∧ Dictionary.get? name members = none) := by
  cases arises with
  | own leads found present broken =>
    refine ⟨fun front way _ => Json.exists_follow?_of_isPrefix way found, fun _ => ⟨_, found⟩, ?_⟩
    intro required
    exact absurd (Reason.message_eq_required_iff.1 required) (ne_required_of_mem_reasons broken)
  | absent leads found missing required =>
    refine ⟨fun front way other => ?_, absurd rfl, fun _ => ⟨_, _, _, rfl, found, missing⟩⟩
    have above := (List.prefix_concat_iff.1 way).resolve_left other
    exact Json.exists_follow?_of_isPrefix above found

/-- The violations of a value are its own and then those of its components in order, each told from
the value on, where a component that is missing although it is required is one violation. From
wherever a check sets out and whatever was found before, it adds these, told from where it set out,
and comes back there. So no violation is told twice, and every violation is at a place of the value
or at a property that is missing in one. -/
theorem violations_in_order (s : Schema) (value : Json) :
    (s.violations value =
      if value.isNull && !s.isRequired then []
      else (reasons s value).map (fun r => ⟨[], r.message⟩) ++
        (components s value).flatMap fun c => c.violations.map (.under [c.step])) ∧
    (∀ search : Search, check s value search =
      ⟨search.path, search.found ++ (s.violations value).map (.under search.path)⟩) ∧
    (s.violations value).Nodup ∧
    ∀ v ∈ s.violations value,
      (∀ front, front <+: v.path → front ≠ v.path → ∃ there, value.follow? front = some there) ∧
      (v.reason ≠ "Required" → ∃ there, value.follow? v.path = some there) ∧
      (v.reason = "Required" → ∃ path name members, v.path = path ++ [.key name] ∧
        value.follow? path = some (.object members) ∧ Dictionary.get? name members = none) := by
  refine ⟨violations_eq s value, fun search => ?_, nodup_violations s value, fun v told => ?_⟩
  · rw [check_eq, relocates]
    rfl
  · exact (arises_of_mem s value v told).place

/-- A list of two cats, of which one has no name and the other no age. -/
theorem violations_in_order_cats :
    let cat : Schema := .object true
      (.ofPairs [("name", .string true (some 1) none), ("age", .integer true (some 0) none)])
    let value : Json := .array [.object [("age", .number (.int 3)), ("name", .string "")],
      .object [("name", .string "Tom")]]
    let v : Violation := ⟨[.index 1, .key "age"], "Required"⟩
    Schema.violations (.array true cat none) value =
      [⟨[.index 0, .key "name"], "String must contain at least 1 character(s)"⟩, v] ∧
    (Schema.violations (.array true cat none) value).Nodup ∧
    (∃ there, value.follow? [.index 1] = some there) ∧
    ∃ path name members, v.path = path ++ [.key name] ∧
      value.follow? path = some (.object members) ∧ Dictionary.get? name members = none := by
  intro cat value v
  have listed : Schema.violations (.array true cat none) value =
      [⟨[.index 0, .key "name"], "String must contain at least 1 character(s)"⟩, v] := by
    decide +kernel
  obtain ⟨-, -, distinct, places⟩ := violations_in_order (.array true cat none) value
  have told : v ∈ Schema.violations (.array true cat none) value := by
    rw [listed]
    exact List.mem_cons_of_mem _ List.mem_cons_self
  obtain ⟨above, -, absent⟩ := places v told
  exact ⟨listed, distinct, above [.index 1] ⟨[.key "age"], rfl⟩ (by decide), absent rfl⟩

/-- Every violation states a fact about what is at its path and the schema that is for it.
`Required` is told only of a property that is required and missing. That an integer was wanted and
something else received is told only of a number that is no integer of 64 bits with a sign. -/
theorem violations_tell_facts (s : Schema) (value : Json) : ∀ v ∈ s.violations value,
    (∃ t, Leads s v.path t ∧
      ((v.reason = "Required" ∧ t.isRequired ∧ ∃ path name members, v.path = path ++ [.key name] ∧
          value.follow? path = some (.object members) ∧ Dictionary.get? name members = none) ∨
        ∃ r there, v.reason = r.message ∧ value.follow? v.path = some there ∧ Fact t there r)) ∧
    (v.reason = "Required" → value.follow? v.path = none) ∧
    (v.reason = "Expected integer, received float" → ∃ n, value.follow? v.path = some (.number n) ∧
      ∀ i, n = .int i → i < -2 ^ 63 ∨ 2 ^ 63 ≤ i) := by
  intro v told
  cases arises_of_mem s value v told with
  | @own path t there r leads found present broken =>
    have fact := fact_of_mem_reasons broken
    refine ⟨⟨t, leads, .inr ⟨r, there, rfl, found, fact⟩⟩, fun required => ?_, fun float => ?_⟩
    · exact absurd (Reason.message_eq_required_iff.1 required) (ne_required_of_mem_reasons broken)
    · cases Reason.message_eq_fraction_iff.1 float
      cases fact with
      | fraction other => exact ⟨_, found, other⟩
  | @absent path name t members leads found missing required =>
    refine ⟨⟨t, leads, .inl ⟨rfl, required, path, name, members, rfl, found, missing⟩⟩,
      fun _ => ?_, fun float => absurd float (by simp)⟩
    rw [Json.follow?_append, found, Option.bind_some, Json.follow?, missing, Option.bind_none]

/-- A cat without a name that is younger than any cat. -/
theorem violations_tell_facts_cat :
    let cat : Schema := .object true
      (.ofPairs [("name", .string true (some 1) none), ("age", .integer true (some 0) none)])
    let value : Json := .object [("age", .number (.int (-1)))]
    value.follow? [.key "name"] = none ∧
    ∃ t, Leads cat [.key "age"] t ∧ ∃ r there,
      "Number must be greater than or equal to 0" = r.message ∧
        value.follow? [.key "age"] = some there ∧ Fact t there r := by
  intro cat value
  have listed : cat.violations value = [⟨[.key "name"], "Required"⟩,
      ⟨[.key "age"], "Number must be greater than or equal to 0"⟩] := by decide +kernel
  have facts := violations_tell_facts cat value
  rw [listed] at facts
  obtain ⟨-, missing, -⟩ := facts _ List.mem_cons_self
  obtain ⟨⟨t, leads, fact⟩, -, -⟩ := facts _ (List.mem_cons_of_mem _ List.mem_cons_self)
  refine ⟨missing rfl, t, leads, fact.resolve_left ?_⟩
  rintro ⟨required, -⟩
  exact absurd required (by decide)

/-- An integer of 64 bits without a sign may be called a float. -/
theorem float_told_of_integer :
    ¬ ∀ (s : Schema) (value : Json), ∀ v ∈ s.violations value,
      v.reason = "Expected integer, received float" →
        ∀ i : Int, value.follow? v.path ≠ some (.number (.int i)) := by
  intro never
  have told : (⟨[], "Expected integer, received float"⟩ : Violation) ∈
      Schema.violations (.integer false none none) (.number (.int 9223372036854775808)) := by
    decide +kernel
  exact never _ _ _ told rfl 9223372036854775808 rfl

end Ingress.Schema
