/-!
# Properties

Properties are named values, each name once, in the order in which the names came up. A value for a
name that is there already takes the place of the one before.
-/

namespace Ingress

/-- Values under some names, which are all different. -/
inductive Fields (α : Type) : List String → Type
  | nil : Fields α []
  | cons {names : List String} (name : String) (value : α) (fresh : name ∉ names)
    (rest : Fields α names) : Fields α (name :: names)

namespace Fields

variable {α : Type}

/-- The names with their values. -/
def entries : {names : List String} → Fields α names → List (String × α)
  | _, nil => []
  | _, cons name value _ rest => (name, value) :: rest.entries

/-- Gives a name another value. -/
def replace (name : String) (value : α) : {names : List String} → Fields α names → Fields α names
  | _, nil => nil
  | _, cons key old fresh rest =>
    if key = name then cons key value fresh rest else cons key old fresh (rest.replace name value)

/-- Puts a value with a new name behind the others. -/
def push (name : String) (value : α) :
    {names : List String} → Fields α names → name ∉ names → Fields α (names ++ [name])
  | _, nil, _ => cons name value List.not_mem_nil nil
  | _, cons key first fresh rest, unknown =>
    have other : key ∉ _ ++ [name] := by
      simp only [List.mem_append, List.mem_singleton, not_or]
      exact ⟨fresh, Ne.symm (List.ne_of_not_mem_cons unknown)⟩
    cons key first other (rest.push name value (List.not_mem_of_not_mem_cons unknown))

theorem map_fst_entries {names : List String} (fields : Fields α names) :
    fields.entries.map Prod.fst = names := by
  induction fields with
  | nil => rfl
  | cons name value fresh rest ih => exact congrArg (name :: ·) ih

theorem nodup_names {names : List String} (fields : Fields α names) : names.Nodup := by
  induction fields with
  | nil => exact List.nodup_nil
  | cons name value fresh rest ih => exact List.nodup_cons.2 ⟨fresh, ih⟩

end Fields

/-- Values under names that are all different, in order. -/
structure Properties (α : Type) where
  {names : List String}
  fields : Fields α names

namespace Properties

variable {α : Type}

/-- No properties. -/
def empty : Properties α := ⟨.nil⟩

/-- The names with their values. -/
def entries (ps : Properties α) : List (String × α) := ps.fields.entries

/-- Declares a property; one of the same name keeps its position. -/
def declare (name : String) (value : α) (ps : Properties α) : Properties α :=
  if known : name ∈ ps.names then ⟨ps.fields.replace name value⟩
  else ⟨ps.fields.push name value known⟩

/-- Declares properties one after the other. -/
def ofPairs (pairs : List (String × α)) : Properties α :=
  pairs.foldl (fun ps p => ps.declare p.1 p.2) empty

/-- No name stands twice among the properties. -/
theorem nodup_entries (ps : Properties α) : (ps.entries.map Prod.fst).Nodup := by
  rw [entries, Fields.map_fst_entries]
  exact ps.fields.nodup_names

end Properties

end Ingress
