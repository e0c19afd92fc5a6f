import Mathlib.Data.List.Chain
import Ingress.Metrics.Recorder
import Ingress.Proofs.Decimal.Order

/-!
# What the buckets of a histogram hold

A value goes into the first bucket whose bound is not below it and is counted in all buckets from
there on. So a bucket holds the values that are at most its bound or the bound of a bucket before
it, however the values came in.
-/

namespace Ingress.Metrics

namespace Histogram

variable {bounds : List Float} {values more : List Float}

/-- The value is at most one of the first `n` bounds. -/
def Reaches (bounds : List Float) (n : Nat) (x : Float) : Prop := ∃ b ∈ bounds.take n, x ≤ b

instance (bounds : List Float) (n : Nat) (x : Float) : Decidable (Reaches bounds n x) :=
  inferInstanceAs (Decidable (∃ b ∈ bounds.take n, x ≤ b))

/-- What the buckets hold of some values. -/
def filled (bounds values : List Float) : List Nat :=
  (List.range bounds.length).map fun i => values.countP (Reaches bounds (i + 1))

theorem filled_nil (bounds : List Float) : filled bounds [] = bounds.map fun _ => 0 := by
  simp [filled, List.map_const']

theorem filled_perm (same : values.Perm more) : filled bounds values = filled bounds more := by
  unfold filled
  exact List.map_congr_left fun i _ => same.countP_eq _

theorem filled_append (bounds values more : List Float) :
    filled bounds (values ++ more) =
      List.zipWith (· + ·) (filled bounds values) (filled bounds more) := by
  simp [filled, List.zipWith_map]

/-- The place of the first bound that is not below a value tells which of the first bounds are. -/
theorem findIdx_lt_iff {n : Nat} (within : n ≤ bounds.length) (x : Float) :
    bounds.findIdx (fun b => x ≤ b) < n ↔ Reaches bounds n x := by
  unfold Reaches
  induction bounds generalizing n with
  | nil =>
    simp only [List.length_nil, Nat.le_zero] at within
    simp [within]
  | cons b bounds ih =>
    cases n with
    | zero => simp
    | succ n =>
      have rest := ih (Nat.le_of_succ_le_succ within)
      by_cases first : x ≤ b
      · simp [List.findIdx_cons, first]
      · simp [List.findIdx_cons, first, rest]

theorem countP_from (f : Float → Nat) (values : List Float) {i j : Nat} (order : i < j) :
    values.countP (fun x => f x = i) + values.countP (fun x => i + 1 ≤ f x ∧ f x < j) =
      values.countP fun x => i ≤ f x ∧ f x < j := by
  induction values with
  | nil => rfl
  | cons x values ih =>
    simp only [List.countP_cons, ← ih, decide_eq_true_eq]
    split_ifs <;> omega

/-- The numbers of the values at each place from some place on add up to the numbers of the values
between. -/
theorem runningSums_countP (f : Float → Nat) (values : List Float) (start i n : Nat) :
    runningSums start ((List.range' i n).map fun j => values.countP fun x => f x = j) =
      (List.range' i n).map fun j => start + values.countP fun x => i ≤ f x ∧ f x < j + 1 := by
  -- What is counted at the first place goes into the start of the rest.
  induction n generalizing start i with
  | zero => rfl
  | succ n ih =>
    rw [List.range'_succ, List.map_cons, List.map_cons, runningSums, ih]
    refine List.cons_eq_cons.2 ⟨?_, List.map_congr_left fun j member => ?_⟩
    · refine congrArg (start + ·) (List.countP_congr fun x _ => ?_)
      simp only [decide_eq_true_eq]
      omega
    · have order : i < j + 1 := by
        have := (List.mem_range'_1.1 member).1
        omega
      rw [← countP_from f values order, Nat.add_assoc]

theorem runningSums_tally (bounds values : List Float) :
    runningSums 0 (tally bounds values) = filled bounds values := by
  rw [tally, filled, List.range_eq_range', runningSums_countP]
  refine List.map_congr_left fun i member => ?_
  have within : i + 1 ≤ bounds.length := by
    have := (List.mem_range'_1.1 member).2
    omega
  rw [Nat.zero_add]
  exact List.countP_congr fun x _ => by simp [findIdx_lt_iff within]

theorem buckets_record {h : Histogram} (held : h.buckets = filled bounds values) :
    (h.record bounds more).buckets = filled bounds (values ++ more) := by
  rw [filled_append, ← held, ← runningSums_tally]
  rfl

theorem reaches_iff_of_ascending (ascending : bounds.Pairwise (· ≤ ·)) {i : Nat}
    (within : i < bounds.length) (x : Float) : Reaches bounds (i + 1) x ↔ x ≤ bounds[i] := by
  constructor
  · rintro ⟨b, member, below⟩
    obtain ⟨j, inside, rfl⟩ := List.getElem_of_mem member
    rw [List.getElem_take] at below
    rw [List.length_take] at inside
    rcases Nat.lt_or_eq_of_le (show j ≤ i by omega) with earlier | rfl
    · have next := List.pairwise_iff_getElem.1 ascending j i (by omega) within earlier
      exact Decimal.float_le_trans below next
    · exact below
  · intro below
    refine ⟨bounds[i], ?_, below⟩
    rw [List.take_succ_eq_append_getElem within]
    exact List.mem_append_right _ (List.mem_singleton_self _)

/-- Where each bound is at most the next, a bucket holds the values that are at most its own bound.
-/
theorem filled_of_ascending (ascending : bounds.IsChain (· ≤ ·)) (values : List Float) :
    filled bounds values = bounds.map fun b => values.countP (· ≤ b) := by
  have pairs := List.isChain_iff_pairwise.1 ascending
  refine List.ext_getElem (by simp [filled]) fun i _ within => ?_
  rw [List.length_map] at within
  simp only [filled, List.getElem_map, List.getElem_range]
  exact List.countP_congr fun x _ => by simp [reaches_iff_of_ascending pairs within]

end Histogram

end Ingress.Metrics
