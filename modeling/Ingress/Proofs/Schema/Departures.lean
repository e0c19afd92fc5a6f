import Ingress.Schema.Basic

/-!
# Departures from a schema

Checking a value adds to what was found before and depends on it in no other way, and it comes back
to the place it set out from. What it adds are the departures of the value itself, and then those of
its items or of its declared properties, one after the other.
-/

namespace Ingress.Schema

/-- What holds of every schema if it holds of those without parts, of an array if it holds of its
items, and of an object if it holds of its declared properties. -/
@[elab_as_elim]
theorem induction {motive : Schema → Prop}
    (string : ∀ r least most, motive (.string r least most))
    (integer : ∀ r least most, motive (.integer r least most))
    (number : ∀ r least most, motive (.number r least most))
    (boolean : ∀ r, motive (.boolean r))
    (array : ∀ r items least, motive items → motive (.array r items least))
    (object : ∀ r properties, (∀ p ∈ properties.entries, motive p.2) → motive (.object r properties))
    (s : Schema) : motive s :=
  @Schema.rec motive (fun properties => ∀ p ∈ properties.entries, motive p.2)
    (fun _ fields => ∀ p ∈ fields.entries, motive p.2)
    string integer number boolean array object (fun _ all => all) (List.forall_mem_nil _)
    (fun _ _ _ _ first rest => List.forall_mem_cons.2 ⟨first, rest⟩) s

/-- The departures of a value at a path. -/
def departures (s : Schema) (path : List Segment) (value : Json) : List Violation :=
  (check s value ⟨path, []⟩).found

/-- The departures of a value itself as violations. -/
def own (s : Schema) (path : List Segment) (value : Json) : List Violation :=
  (reasons s value).map fun r => ⟨path, r.message⟩

/-- The departures of one declared property of an object. -/
def ofProperty (path : List Segment) (members : Dictionary Json) (p : String × Schema) :
    List Violation :=
  match members.get? p.1 with
  | some value => departures p.2 (path ++ [.key p.1]) value
  | none => if p.2.isRequired then [⟨path ++ [.key p.1], Reason.required.message⟩] else []

/-- The departures of the items or declared properties of a value. -/
def ofParts : Schema → List Segment → Json → List Violation
  | .array _ items _, path, .array values =>
    values.zipIdx.flatMap fun v => departures items (path ++ [.index v.2]) v.1
  | .object _ properties, path, .object members =>
    properties.entries.flatMap (ofProperty path members)
  | _, _, _ => []

namespace Search

/-- Adds departures to those found before. -/
def add (search : Search) (more : List Violation) : Search :=
  { search with found := search.found ++ more }

@[simp] theorem path_add (search : Search) (more : List Violation) :
    (search.add more).path = search.path := rfl

@[simp] theorem add_nil (search : Search) : search.add [] = search := by simp [add]

@[simp] theorem add_add (search : Search) (first second : List Violation) :
    (search.add first).add second = search.add (first ++ second) := by simp [add]

/-- What a part adds stays when the way back from it is gone. -/
theorem leave_add_enter (search : Search) (step : Segment) (more : List Violation) :
    ((search.enter step).add more).leave = search.add more := by simp [add, enter, leave]

theorem foldl_reject (search : Search) (rs : List Reason) :
    rs.foldl reject search = search.add (rs.map fun r => ⟨search.path, r.message⟩) := by
  induction rs generalizing search with
  | nil => exact (add_nil search).symm
  | cons r rest ih =>
    rw [List.foldl_cons, ih, List.map_cons, add, add, reject, List.append_assoc,
      List.singleton_append]

end Search

/-- Adds the departures of the items or declared properties to those found before. -/
def checkParts (s : Schema) (value : Json) (search : Search) : Search :=
  match s, value with
  | .array _ items _, .array values =>
    values.zipIdx.foldl (fun search v => (check items v.1 (search.enter (.index v.2))).leave) search
  | .object _ properties, .object members => checkProperties properties.fields members search
  | _, _ => search

/-- What is found is added to what was found before, and the check comes back to where it began. -/
def Accumulates (s : Schema) : Prop :=
  ∀ value search, check s value search = search.add (departures s search.path value)

theorem foldl_check {items : Schema} (adds : items.Accumulates) (values : List (Json × Nat))
    (search : Search) :
    values.foldl (fun search v => (check items v.1 (search.enter (.index v.2))).leave) search =
      search.add
        (values.flatMap fun v => departures items (search.path ++ [.index v.2]) v.1) := by
  induction values generalizing search with
  | nil => exact (Search.add_nil search).symm
  | cons v rest ih =>
    rw [List.foldl_cons, adds, Search.leave_add_enter, ih, Search.path_add, Search.add_add,
      List.flatMap_cons]
    rfl

/-- Adds the departures of one declared property to those found before. -/
def checkProperty (members : Dictionary Json) (p : String × Schema) (search : Search) : Search :=
  match members.get? p.1 with
  | some value => check p.2 value search
  | none => if p.2.isRequired then search.reject .required else search

theorem checkProperties_cons {names : List String} (name : String) (s : Schema)
    (fresh : name ∉ names) (rest : Fields Schema names) (members : Dictionary Json)
    (search : Search) :
    checkProperties (.cons name s fresh rest) members search =
      checkProperties rest members
        (checkProperty members (name, s) (search.enter (.key name))).leave := rfl

theorem checkProperty_eq {p : String × Schema} (adds : p.2.Accumulates)
    (members : Dictionary Json) (search : Search) :
    checkProperty members p (search.enter (.key p.1)) =
      (search.enter (.key p.1)).add (ofProperty search.path members p) := by
  unfold checkProperty ofProperty
  cases members.get? p.1 with
  | some value => exact adds value _
  | none =>
    cases p.2.isRequired with
    | true => rfl
    | false => exact (Search.add_nil _).symm

theorem checkProperties_eq {names : List String} {properties : Fields Schema names}
    (adds : ∀ p ∈ properties.entries, p.2.Accumulates) (members : Dictionary Json)
    (search : Search) :
    checkProperties properties members search =
      search.add (properties.entries.flatMap (ofProperty search.path members)) := by
  induction properties generalizing search with
  | nil => exact (Search.add_nil search).symm
  | cons name s fresh rest ih =>
    obtain ⟨first, others⟩ := List.forall_mem_cons.1 adds
    rw [checkProperties_cons, checkProperty_eq first, Search.leave_add_enter, ih others,
      Search.path_add, Search.add_add]
    rfl

theorem check_eq_checkParts (s : Schema) (value : Json) (search : Search) :
    check s value search =
      if value.isNull && !s.isRequired then search
      else checkParts s value (search.add (own s search.path value)) := by
  rw [check.eq_def, own, ← Search.foldl_reject]
  cases value.isNull && !s.isRequired with
  | true => rfl
  | false => rfl

theorem accumulates_of_checkParts {s : Schema}
    (adds : ∀ value search, checkParts s value search =
      search.add (ofParts s search.path value)) : s.Accumulates := by
  intro value search
  rw [departures, check_eq_checkParts, check_eq_checkParts]
  split
  · exact (Search.add_nil search).symm
  · rw [adds, adds, Search.add_add, Search.add_add]
    rfl

theorem checkParts_eq (s : Schema) (value : Json) (search : Search) :
    checkParts s value search = search.add (ofParts s search.path value) := by
  induction s using induction generalizing value search with
  | array r items least ih =>
    cases value with
    | array values => exact foldl_check (accumulates_of_checkParts ih) _ search
    | _ => exact (Search.add_nil search).symm
  | object r properties ih =>
    cases value with
    | object members =>
      have adds : ∀ p ∈ properties.entries, p.2.Accumulates := fun p member =>
        accumulates_of_checkParts (ih p member)
      exact checkProperties_eq adds members search
    | _ => exact (Search.add_nil search).symm
  | _ => exact (Search.add_nil search).symm

/-- A check adds the departures at the place it has reached, and comes back to that place. -/
theorem check_eq (s : Schema) (value : Json) (search : Search) :
    check s value search = search.add (departures s search.path value) :=
  accumulates_of_checkParts (checkParts_eq s) value search

/-- The departures of a value itself come first, those of its parts after them. -/
theorem departures_eq (s : Schema) (path : List Segment) (value : Json) :
    departures s path value =
      if value.isNull && !s.isRequired then [] else own s path value ++ ofParts s path value := by
  rw [departures, check_eq_checkParts]
  split
  · rfl
  · rw [checkParts_eq, Search.add_add, Search.path_add]
    rfl

end Ingress.Schema
