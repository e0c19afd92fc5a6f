import Mathlib.Data.List.Nodup
import Ingress.Json.Decoder
import Ingress.Proofs.Json.Roundtrip

/-!
# Written values are decoded

What a decoder takes from the tree of a value it also takes from the text that the value is written
as. A record is decoded from an object whose members are fields of the record, in whatever order
they stand.
-/

namespace Ingress.Json

open Reading

/-- What is decoded is gone on with. -/
theorem ok_bind (a : α) (f : α → Except Refusal β) : (Except.ok a >>= f) = f a := rfl

namespace Decoder

theorem unsigned_ofNat {bits n : Nat} (fits : n < 1 <<< bits) (expected : String) :
    unsigned bits expected (ofJson (.ofNat n)) = .ok n := by
  have bounds : (0 : Int) ≤ n ∧ (n : Int) ≤ ((1 <<< bits : Nat) : Int) - 1 := by omega
  have taken : integer 0 ((1 <<< bits : Nat) - 1) expected (.number (.int n)) = .ok (n : Int) :=
    if_pos bounds
  exact congrArg (· >>= fun i : Int => pure i.toNat) taken

theorem optional_ofOption {item : Decoder α} {encode : α → Json} {o : Option α}
    (reads : ∀ a ∈ o, item (ofJson (encode a)) = .ok a)
    (shown : ∀ a ∈ o, ofJson (encode a) ≠ .null) :
    optional item (ofJson (.ofOption encode o)) = .ok o := by
  cases o with
  | none => rfl
  | some a =>
    rw [ofOption, optional, reads a rfl]
    · rfl
    · exact shown a rfl

theorem list_array {item : Decoder α} {encode : α → Json} (as : List α)
    (reads : ∀ a ∈ as, item (ofJson (encode a)) = .ok a) :
    list item (ofJson (.array (as.map encode))) = .ok as := by
  rw [ofJson, list]
  induction as with
  | nil => rfl
  | cons a as ih =>
    obtain ⟨first, others⟩ := List.forall_mem_cons.1 reads
    rw [List.map_cons, ofItems, items, first, ih others]
    rfl

end Decoder

/-- The value fits the field that has its name. -/
def Shape.Fits (s : Shape Reading) (m : String × Json) : Prop :=
  ∃ f, s.fields.find? (·.name = m.1) = some f ∧ f.take (ofJson m.2) = .ok (ofJson m.2)

theorem Shape.Fits.of_reads {s : Shape Reading} {f : FieldShape Reading} {d : Decoder α}
    {name : String} {j : Json} {a : α} (found : s.fields.find? (·.name = name) = some f)
    (take : f.take = Decoder.fits d) (reads : d (ofJson j) = .ok a) : s.Fits (name, j) := by
  refine ⟨f, found, ?_⟩
  rw [take, Decoder.fits, reads]
  rfl

/-- The members of an object are taken one by one, each put in front of those before it. -/
theorem Shape.members_ofMembers {s : Shape Reading} {ms : List (String × Json)}
    {seen : List (String × Reading)} (distinct : (ms.map (·.1)).Nodup)
    (fresh : ∀ m ∈ ms, ∀ p ∈ seen, p.1 ≠ m.1) (fits : ∀ m ∈ ms, s.Fits m) :
    s.members seen (ofMembers ms) = .ok ((ms.map fun m => (m.1, ofJson m.2)).reverse ++ seen) := by
  induction ms generalizing seen with
  | nil => rfl
  | cons m ms ih =>
    obtain ⟨name, j⟩ := m
    obtain ⟨⟨f, found, taken⟩, others⟩ := List.forall_mem_cons.1 fits
    obtain ⟨unseen, fresh⟩ := List.forall_mem_cons.1 fresh
    obtain ⟨single, distinct⟩ := List.nodup_cons.1 distinct
    have once : seen.any (·.1 = name) = false := by
      simpa using fun k r member => unseen (k, r) member
    have next : ∀ m ∈ ms, ∀ p ∈ (name, ofJson j) :: seen, p.1 ≠ m.1 := by
      intro m member p before same
      rcases List.mem_cons.1 before with rfl | before
      · exact single (List.mem_map.2 ⟨m, member, same.symm⟩)
      · exact fresh m member p before same
    simp only [ofMembers, members, found, once, taken]
    refine (ih distinct next others).trans ?_
    simp

theorem find?_of_distinct {l : List (String × β)} (distinct : (l.map (·.1)).Nodup) {name : String}
    {b : β} (member : (name, b) ∈ l) : l.find? (·.1 = name) = some (name, b) := by
  induction l with
  | nil => cases member
  | cons p l ih =>
    obtain ⟨single, distinct⟩ := List.nodup_cons.1 distinct
    rcases List.mem_cons.1 member with rfl | later
    · simp
    · have other : p.1 ≠ name := fun same =>
        single (List.mem_map.2 ⟨(name, b), later, same.symm⟩)
      rw [List.find?_cons_of_neg (by simpa using other), ih distinct later]

/-- An object is decoded as a record if each of its members fits a field, and every field is found
with the value that stands there. -/
theorem Shape.decode_object {s : Shape Reading} {ms : List (String × Json)}
    (fits : ∀ m ∈ ms, s.Fits m) (distinct : (ms.map (·.1)).Nodup) :
    ∃ fs, s.decode (ofJson (.object ms)) = .ok fs ∧
      ∀ m ∈ ms, fs.find? (·.1 = m.1) = some (m.1, ofJson m.2) := by
  refine ⟨(ms.map fun m => (m.1, ofJson m.2)).reverse, ?_, fun m member => ?_⟩
  · have fresh : ∀ m ∈ ms, ∀ p ∈ ([] : List (String × Reading)), p.1 ≠ m.1 := by simp
    rw [ofJson, decode, members_ofMembers distinct fresh fits, List.append_nil]
  · refine find?_of_distinct ?_ ?_
    · rw [List.map_reverse, List.nodup_reverse, List.map_map]
      exact distinct
    · exact List.mem_reverse.2 (List.mem_map.2 ⟨m, member, rfl⟩)

section Fields

variable {d : Decoder α} {name : String} {fs : List (String × Reading)} {r : Reading} {a : α}
  (found : fs.find? (·.1 = name) = some (name, r)) (reads : d r = .ok a)
include found reads

theorem member?_ok : member? d name fs = .ok (some a) := by
  rw [member?, found]
  simp only [reads]
  rfl

theorem member_ok : member d name fs = .ok a := by
  rw [member, member?_ok found reads]
  rfl

theorem memberD_ok (missing : α) : memberD d name missing fs = .ok a := by
  rw [memberD, member?_ok found reads]
  rfl

end Fields

/-- What is written is decoded as its tree is. -/
theorem decodeBytes_write {j : Json} (exact : j.IsExact) (d : Decoder α) :
    decodeBytes d j.write.toUTF8 = d (ofJson j) := by
  rw [decodeBytes, decodeGlyphs, glyphsOfBytes_toUTF8, ofGlyphs_write exact]
  exact bind_pure (d (ofJson j))

end Ingress.Json
