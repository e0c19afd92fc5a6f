import Mathlib.Data.List.Basic
import Ingress.Json.Decoder
import Ingress.Proofs.Fallible

/-!
# The parts of a record

What a record holds under the name of a field is decoded as that field, and nothing else is. A
record written as a list of its fields holds them at their places.
-/

namespace Ingress.Json

open Fallible

theorem Reading.refuse_ne_ok (r : Reading) (expected : String) (a : α) :
    r.refuse expected ≠ .ok a := by
  intro taken
  obtain ⟨f, -, thrown⟩ := bind_eq_ok_iff.1 taken
  cases thrown

/-- What stands for the field of a name in a tree, where a record has fields of the given names. -/
def Reading.part? (names : List String) (name : String) : Reading → Option Reading
  | .record ms => (ms.find? (·.1 = some name)).map (·.2)
  | .foreign => if name = Shape.foreignName then some .foreign else none
  | .list rs | .series rs => rs[names.idxOf name]?
  | _ => none

/-- What a field takes is the tree itself. -/
def FieldShape.Keeps (f : FieldShape Reading) : Prop := ∀ r b, f.take r = .ok b → b = r

theorem keeps_of_fits {f : FieldShape Reading} {d : Decoder α} (take : f.take = Decoder.fits d) :
    f.Keeps := by
  intro r b taken
  rw [take, Decoder.fits, bind_eq_ok_iff] at taken
  obtain ⟨-, -, same⟩ := taken
  exact (Except.ok.inj same).symm

namespace Shape

variable {s : Shape Reading} {found : List (String × Reading)} {name : String}

/-- A field is found among those before if it was there already, and else where its name stands. -/
theorem find?_members (keeps : ∀ f ∈ s.fields, f.Keeps) (field : name ∈ s.fields.map (·.name))
    {ms : List (Option String × Reading)} {seen : List (String × Reading)}
    (read : s.members seen ms = .ok found) :
    found.find? (·.1 = name) = (seen.find? (·.1 = name)).or
      ((ms.find? (·.1 = some name)).map fun m => (name, m.2)) := by
  induction ms generalizing seen with
  | nil =>
    cases read
    simp
  | cons m ms ih =>
    obtain ⟨first, r⟩ := m
    cases first with
    | none => cases read
    | some first =>
      rw [members] at read
      split at read
      · next f known =>
        split at read
        · cases read
        · next unseen =>
          obtain ⟨b, taken, later⟩ := bind_eq_ok_iff.1 read
          obtain rfl := keeps f (List.mem_of_find?_eq_some known) r b taken
          rw [ih later]
          -- A name that comes again is refused, so the first member of a name is the only one.
          by_cases same : first = name
          · subst same
            have new : seen.find? (·.1 = first) = none := List.find?_eq_none.2 fun p member here =>
              unseen (List.any_eq_true.2 ⟨p, member, here⟩)
            simp [new]
          · simp [same]
      · next unknown =>
        split at read
        · cases read
        · obtain ⟨-, -, later⟩ := bind_eq_ok_iff.1 read
          have other : first ≠ name := by
            rintro rfl
            obtain ⟨f, member, named⟩ := List.mem_map.1 field
            simpa [named] using List.find?_eq_none.1 unknown f member
          rw [ih later]
          simp [other]

/-- A list without items holds no fields. -/
theorem positions_nil {fs : List (FieldShape Reading)} {count : Nat}
    (read : s.positions count fs [] = .ok found) : found = [] := by
  induction fs generalizing count with
  | nil =>
    cases read
    rfl
  | cons f fs ih =>
    rw [positions] at read
    split at read
    · exact ih read
    · cases read

/-- A field is found in a list at the place that it has among the fields. -/
theorem find?_positions {fs : List (FieldShape Reading)} (keeps : ∀ f ∈ fs, f.Keeps)
    {count : Nat} {rs : List Reading} (read : s.positions count fs rs = .ok found)
    (field : name ∈ fs.map (·.name)) :
    found.find? (·.1 = name) = rs[(fs.map (·.name)).idxOf name]?.map fun r => (name, r) := by
  induction fs generalizing count rs found with
  | nil => cases field
  | cons f fs ih =>
    obtain ⟨first, others⟩ := List.forall_mem_cons.1 keeps
    cases rs with
    | nil =>
      rw [positions_nil read]
      rfl
    | cons r rs =>
      obtain ⟨b, taken, read⟩ := bind_eq_ok_iff.1 read
      obtain ⟨more, later, done⟩ := bind_eq_ok_iff.1 read
      obtain rfl := first r b taken
      cases done
      by_cases same : f.name = name
      · simp [same]
      · have rest : name ∈ fs.map (·.name) := by
          rcases List.mem_cons.1 field with here | rest
          · exact absurd here.symm same
          · exact rest
        simp [List.idxOf_cons_ne _ same, same, ih others later rest]

/-- A field is found in a record exactly if something stands for it, and then it is that. -/
theorem find?_decode (keeps : ∀ f ∈ s.fields, f.Keeps) (field : name ∈ s.fields.map (·.name))
    {r : Reading} (read : s.decode r = .ok found) :
    found.find? (·.1 = name) =
      (r.part? (s.fields.map (·.name)) name).map fun part => (name, part) := by
  unfold decode at read
  split at read
  · rw [find?_members keeps field read, Reading.part?, Option.map_map]
    rfl
  · rw [find?_members keeps field read, Reading.part?]
    by_cases same : foreignName = name
    · simp [same]
    · simp [same, Ne.symm same]
  · exact find?_positions keeps read field
  · exact find?_positions keeps read field
  · exact absurd read (Reading.refuse_ne_ok _ _ _)

end Shape

/-- The value is decoded from the part that stands for it; without that it is the other value. -/
def Decoder.Gives (d : Decoder α) (missing : α) (part : Option Reading) (a : α) : Prop :=
  match part with
  | none => a = missing
  | some r => d r = .ok a

/-- The value of each field of a record is decoded from the part that stands for it. -/
theorem Shape.gives_of_decode {s : Shape Reading} (names : List String)
    (named : s.fields.map (·.name) = names) (keeps : ∀ f ∈ s.fields, f.Keeps) {r : Reading}
    {found : List (String × Reading)} (read : s.decode r = .ok found) :
    ∀ ⦃α : Type⦄ ⦃name : String⦄, name ∈ names → ∀ ⦃d : Decoder α⦄ ⦃missing a : α⦄,
      memberD d name missing found = .ok a → d.Gives missing (r.part? names name) a := by
  subst named
  intro α name field d missing a got
  have place := find?_decode keeps field read
  obtain ⟨o, taken, same⟩ := bind_eq_ok_iff.1 got
  cases here : r.part? (s.fields.map (·.name)) name with
  | none =>
    rw [member?, place, here] at taken
    cases taken
    exact (Except.ok.inj same).symm
  | some part =>
    rw [member?, place, here] at taken
    obtain ⟨b, reads, taken⟩ := bind_eq_ok_iff.1 taken
    cases taken
    exact reads.trans same

theorem Decoder.Gives.unique {d : Decoder α} {missing a b : α} {part : Option Reading}
    (given : d.Gives missing part a) (given' : d.Gives missing part b) : a = b := by
  cases part with
  | none => exact given.trans given'.symm
  | some r => exact Except.ok.inj (given.symm.trans given')

/-- What holds of the parts of a record holds where the record itself may be missing, if its parts
are then those of the other record. -/
theorem Decoder.Gives.within {outer : Decoder β} {missing b : β} {part : Option Reading}
    (given : outer.Gives missing part b) {d : Decoder α} {f : β → α} {names : List String}
    {name : String}
    (inner : ∀ r, outer r = .ok b → d.Gives (f missing) (r.part? names name) (f b)) :
    d.Gives (f missing) (part.bind (·.part? names name)) (f b) := by
  cases part with
  | none => exact congrArg f given
  | some r => exact inner r given

end Ingress.Json
