/-!
# Dictionaries

A dictionary is a list of named values in the order of the names, each name once. `insert` keeps
that order; a name met again takes the later value.
-/

namespace Ingress

/-- Named values, ordered by name. -/
abbrev Dictionary (α : Type) := List (String × α)

namespace Dictionary

/-- The value of a name. -/
def get? (name : String) : Dictionary α → Option α
  | [] => none
  | (k, v) :: rest => if k = name then some v else get? name rest

/-- Gives a name its value. -/
def insert (name : String) (value : α) : Dictionary α → Dictionary α
  | [] => [(name, value)]
  | (k, v) :: rest =>
    if name < k then (name, value) :: (k, v) :: rest
    else if k = name then (name, value) :: rest
    else (k, v) :: insert name value rest

/-- The dictionary of a list of pairs; of equal names the last one counts. -/
def ofPairs (pairs : List (String × α)) : Dictionary α :=
  pairs.foldl (fun d p => insert p.1 p.2 d) []

theorem get?_insert (name key : String) (value : α) (d : Dictionary α) :
    get? key (insert name value d) = if name = key then some value else get? key d := by
  induction d with
  | nil => simp [insert, get?]
  | cons p rest ih =>
    obtain ⟨k, v⟩ := p
    simp only [insert]
    split
    · by_cases h : name = key <;> simp [get?, h]
    · split
      · rename_i h
        subst h
        by_cases h : k = key <;> simp [get?, h]
      · rename_i hk
        by_cases h : k = key
        · have : name ≠ key := fun e => hk (h.trans e.symm)
          simp [get?, h, this]
        · simp [get?, h, ih]

end Dictionary

end Ingress
