import Mathlib
import Ingress.Text.Ascii

/-!
# Words in any letter case

A text is the same word as another exactly if it spells it letter by letter, where each letter may
be small or capital.
-/

namespace Ingress.Text

/-- The letters of a text are those of a word, each of them as it is there or capital. -/
def Spells (text word : String) : Prop :=
  List.Forall₂ (fun c d => c = d ∨ c = d.toUpper) text.toList word.toList

theorem toLower_eq_iff {c d : Char} (small : d.toLower = d) :
    c.toLower = d ↔ c = d ∨ c = d.toUpper := by
  constructor
  · rintro rfl
    rw [Char.toUpper_toLower_eq_toUpper]
    by_cases capital : c.isUpper
    · have other := Char.not_isLower_of_isUpper capital
      exact .inr (Char.toUpper_eq_of_not_isLower other).symm
    · exact .inl (Char.toLower_eq_of_not_isUpper capital).symm
  · rintro (rfl | rfl)
    · exact small
    · rw [Char.toLower_toUpper_eq_toLower, small]

theorem map_toLower_eq_iff {cs ds : List Char} (small : ∀ d ∈ ds, d.toLower = d) :
    cs.map Char.toLower = ds ↔ List.Forall₂ (fun c d => c = d ∨ c = d.toUpper) cs ds := by
  rw [← List.forall₂_eq_eq_eq, List.forall₂_map_left_iff]
  induction ds generalizing cs with
  | nil => simp
  | cons d ds ih =>
    obtain ⟨first, others⟩ := List.forall_mem_cons.1 small
    cases cs with
    | nil => simp
    | cons c cs => simp only [List.forall₂_cons, toLower_eq_iff first, ih others]

/-- A text is the same word as one without capitals exactly if it spells it. -/
theorem sameWord_iff {text word : String} (small : ∀ d ∈ word.toList, d.toLower = d) :
    sameWord text word = true ↔ Spells text word := by
  have kept : word.toList.map Char.toLower = word.toList :=
    (map_toLower_eq_iff small).2 (List.forall₂_same.2 fun _ _ => .inl rfl)
  rw [sameWord, beq_iff_eq, ← String.toList_inj, lowerAscii, lowerAscii, String.toList_map,
    String.toList_map, kept]
  exact map_toLower_eq_iff small

end Ingress.Text
