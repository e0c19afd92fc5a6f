import Mathlib.Tactic.Common

/-!
# The order of floating point numbers

Numbers are compared by sign, exponent and significand, so that the order is transitive. What is no
number is neither below nor above anything.
-/

namespace Ingress.Decimal

open Float.Model

/-- The sign, exponent and significand of a number in the order in which they are compared. The two
infinities stand beyond all numbers of their sign. -/
def rank? : UnpackedFloat → Option (Int × Int × Int)
  | .notANumber => none
  | .infinity .negative => some (-2, 0, 0)
  | .finite .negative m e _ => some (-1, -e, -m)
  | .zero _ => some (0, 0, 0)
  | .finite .positive m e _ => some (1, e, m)
  | .infinity .positive => some (2, 0, 0)

/-- One rank is not above another: the first difference decides. -/
def NotAbove (k l : Int × Int × Int) : Prop :=
  k.1 < l.1 ∨ k.1 = l.1 ∧ (k.2.1 < l.2.1 ∨ k.2.1 = l.2.1 ∧ k.2.2 ≤ l.2.2)

theorem NotAbove.trans {k l m : Int × Int × Int} (first : NotAbove k l) (second : NotAbove l m) :
    NotAbove k m := by
  unfold NotAbove at *
  omega

theorem isLE_compare_then {e e' : Int} {m m' : Nat} :
    ((compare e e').then (compare m m')).isLE = true ↔ e < e' ∨ e = e' ∧ m ≤ m' := by
  simp only [compare, compareOfLessAndEq]
  split_ifs <;> simp <;> omega

/-- Below zero the larger magnitude comes first. -/
theorem isGE_compare_then {e e' : Int} {m m' : Nat} :
    ((compare e e').then (compare m m')).isGE = true ↔ e' < e ∨ e = e' ∧ m' ≤ m := by
  simp only [compare, compareOfLessAndEq]
  split_ifs <;> simp <;> omega

/-- One number is at most another exactly if both are numbers and the rank of the one is not above
that of the other. -/
theorem unpacked_le_iff {a b : UnpackedFloat} :
    a.le b = true ↔ ∃ k l, rank? a = some k ∧ rank? b = some l ∧ NotAbove k l := by
  have ends : compare UnpackedFloat.Sign.negative .negative = .eq ∧
      compare UnpackedFloat.Sign.negative .positive = .lt ∧
      compare UnpackedFloat.Sign.positive .negative = .gt ∧
      compare UnpackedFloat.Sign.positive .positive = .eq := ⟨rfl, rfl, rfl, rfl⟩
  unfold UnpackedFloat.le NotAbove
  rcases a with ⟨_ | _⟩ | _ | _ | ⟨_ | _, m, e, _⟩ <;>
    rcases b with ⟨_ | _⟩ | _ | _ | ⟨_ | _, m', e', _⟩ <;>
    dsimp only [UnpackedFloat.compare, rank?] <;>
    simp [isLE_compare_then, isGE_compare_then, ends]

theorem float_le_iff {x y : Float} : x ≤ y ↔ ∃ k l, rank? x.toModel.unpack = some k ∧
    rank? y.toModel.unpack = some l ∧ NotAbove k l := by
  rw [← unpacked_le_iff]
  exact decide_eq_true_iff

theorem float_le_trans {x y z : Float} (first : x ≤ y) (second : y ≤ z) : x ≤ z := by
  obtain ⟨k, l, below, middle, notAbove⟩ := float_le_iff.1 first
  obtain ⟨l', m, middle', above, notAbove'⟩ := float_le_iff.1 second
  cases Option.some.inj (middle.symm.trans middle')
  exact float_le_iff.2 ⟨k, m, below, above, notAbove.trans notAbove'⟩

instance transFloatLe : Trans (fun x y : Float => x ≤ y) (fun x y => x ≤ y) (fun x y => x ≤ y) :=
  ⟨float_le_trans⟩

end Ingress.Decimal
