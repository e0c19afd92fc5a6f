import Ingress.Proofs.Span.History

/-!
# The end of a subtree

To finish a span is to finish what is open of its subtree, and nothing else. Each span is reported
when it is finished, once, and after all that lies under it.
-/

namespace Ingress

open Relation

/-- The report of the end of a span. -/
def Span.report (s : Span) : Log.Event := .spanFinished s.trace s.id s

/-- The report tells of the end of a span. -/
def Log.Event.isEnd : Log.Event → Bool
  | .spanFinished .. => true
  | _ => false

namespace SpanTree

variable {t : SpanTree} {top : Nat}

theorem isOpen_iff {i : Nat} : t.isOpen i ↔ ∃ s, t.spans[i]? = some s ∧ s.isFinished = false := by
  simp [isOpen, Option.any_eq_true]

theorem isFinished_eq {i : Nat} {s : Span} (present : t.spans[i]? = some s) :
    t.isFinished i = s.isFinished := by
  rw [isFinished, present, Option.any_some]

/-- In a nested tree the one pass finds all that lies under a span. -/
theorem Nested.inside_of_under (nested : t.Nested) {i : Nat} (under : t.Under top i)
    (bound : i < t.spans.length) : t.inside top i := by
  induction under with
  | self => exact (marks_iff (List.getElem?_eq_getElem bound)).2 (.inl rfl)
  | @child i p s _ present parent ih =>
    have before := nested.parent_lt i s p present parent
    exact (marks_iff present).2 (.inr ⟨p, parent, before, ih (Nat.lt_trans before bound)⟩)

theorem Nested.inside_iff (nested : t.Nested) {i : Nat} {s : Span}
    (present : t.spans[i]? = some s) : t.inside top i ↔ t.Under top i := by
  constructor
  · exact under_of_inside
  · intro under
    exact nested.inside_of_under under (List.getElem?_eq_some_iff.1 present).1

/-- What lies under a span comes after it. -/
theorem Nested.le_of_under (nested : t.Nested) {i : Nat} (under : t.Under top i) : top ≤ i := by
  induction under with
  | self => exact Nat.le_refl top
  | child _ present parent ih =>
    have before := nested.parent_lt _ _ _ present parent
    omega

theorem mem_closing_iff {i : Nat} :
    i ∈ t.closing top ↔ t.isFinished top = false ∧ t.inside top i ∧ t.isOpen i := by
  unfold closing
  cases finished : t.isFinished top with
  | true => simp
  | false =>
    simp only [Bool.false_eq_true, if_false, List.mem_reverse, List.mem_filter, List.mem_range,
      Bool.and_eq_true, Bool.not_eq_true', true_and]
    constructor
    · rintro ⟨bound, marked, running⟩
      have present := List.getElem?_eq_getElem bound
      rw [isFinished_eq present] at running
      exact ⟨marked, isOpen_iff.2 ⟨_, present, running⟩⟩
    · rintro ⟨marked, opened⟩
      obtain ⟨s, present, running⟩ := isOpen_iff.1 opened
      refine ⟨(List.getElem?_eq_some_iff.1 present).1, marked, ?_⟩
      rw [isFinished_eq present, running]

/-- The last places come first. -/
theorem closing_pairwise (top : Nat) (t : SpanTree) : (t.closing top).Pairwise (· > ·) := by
  unfold closing
  split
  · exact .nil
  · rw [List.pairwise_reverse]
    exact List.pairwise_lt_range.filter _

/-- What a span that is finished at an instant takes with it: the spans of the tree afterwards, the
places of those that were finished, in the order of the reports, and the reports. -/
structure Closes (t : SpanTree) (top instant : Nat) (spans : List Span) (places : List Nat)
    (told : List Log.Event) : Prop where
  length_eq : spans.length = t.spans.length
  /-- What is open of the subtree is finished. -/
  ended : ∀ i s, t.spans[i]? = some s → t.Under top i → ¬ s.isFinished →
    spans[i]? = some { s with ended := some instant }
  /-- All else stays as it is. -/
  kept : ∀ i s, t.spans[i]? = some s → ¬ t.Under top i ∨ s.isFinished → spans[i]? = some s
  mem_places : ∀ i, i ∈ places ↔ t.Under top i ∧ t.isOpen i
  nodup : places.Nodup
  /-- What lies under a span is reported before it. -/
  upwards : places.Pairwise fun earlier later => ¬ t.Under earlier later
  told : List.Forall₂ (fun i event => ∃ s, spans[i]? = some s ∧ event = s.report) places told

theorem forall₂_filterMap {α β : Type} {f : α → Option β} {r : α → β → Prop} {xs : List α}
    (each : ∀ x ∈ xs, ∃ y, f x = some y ∧ r x y) : List.Forall₂ r xs (xs.filterMap f) := by
  induction xs with
  | nil => exact .nil
  | cons x rest ih =>
    obtain ⟨⟨y, same, related⟩, others⟩ := List.forall_mem_cons.1 each
    rw [List.filterMap_cons_some same]
    exact .cons related (ih others)

/-- Finishing an open span of a nested tree closes its subtree. -/
theorem Nested.closes_finish (nested : t.Nested) (running : t.isFinished top = false)
    (instant : Nat) :
    t.Closes top instant (t.finish top instant).spans (t.closing top)
      ((t.closing top).filterMap fun i =>
        (t.spans[i]?).map fun s => (s.finish instant).report) where
  length_eq := length_finish top instant t
  ended i s present under open_ := by
    have marked := (nested.inside_iff present).2 under
    rw [getElem?_finish, present]
    simp [running, marked, open_, Span.finish]
  kept i s present apart := by
    rw [getElem?_finish, present]
    rcases apart with apart | ended
    · have unmarked := mt (nested.inside_iff present).1 apart
      simp [unmarked]
    · simp [ended]
  mem_places i := by
    rw [mem_closing_iff, and_iff_right running]
    refine and_congr_left fun opened => ?_
    obtain ⟨s, present, -⟩ := isOpen_iff.1 opened
    exact nested.inside_iff present
  nodup := (closing_pairwise top t).imp Nat.ne_of_gt
  upwards := (closing_pairwise top t).imp fun later under =>
    Nat.not_le_of_gt later (nested.le_of_under under)
  told := by
    refine forall₂_filterMap fun i member => ?_
    obtain ⟨-, marked, opened⟩ := mem_closing_iff.1 member
    obtain ⟨s, present, open_⟩ := isOpen_iff.1 opened
    refine ⟨(s.finish instant).report, by rw [present]; rfl, s.finish instant, ?_, rfl⟩
    rw [getElem?_finish, present]
    simp [running, marked, open_]

theorem Remade.under_iff {t' : SpanTree} {f : Nat → Span → Span} (remade : t.Remade t' f)
    {i : Nat} : t'.Under top i ↔ t.Under top i := by
  constructor
  · intro under
    induction under with
    | self => exact .self
    | child _ present parent ih =>
      obtain ⟨s, there, -, same⟩ := remade.of_present present
      exact .child ih there (Span.parent_eq_of_origin same ▸ parent)
  · intro under
    induction under with
    | self => exact .self
    | @child i p s _ present parent ih =>
      have there : t'.spans[i]? = some (f i s) := by rw [remade.spans_eq, present]; rfl
      exact .child ih there ((Span.parent_eq_of_origin (remade.origin_eq i s)).trans parent)

/-- After a span was finished, just what was finished before or lies under it is finished. -/
theorem Nested.isFinished_finish_iff (nested : t.Nested) (instant : Nat) {i : Nat} :
    (t.finish top instant).isFinished i ↔
      t.isFinished i ∨ i < t.spans.length ∧ t.Under top i := by
  cases present : t.spans[i]? with
  | none =>
    have beyond := List.getElem?_eq_none_iff.1 present
    have outside : ¬ i < t.spans.length := by omega
    simp [isFinished, getElem?_finish, outside]
  | some s =>
    have bound := (List.getElem?_eq_some_iff.1 present).1
    rw [isFinished, getElem?_finish, isFinished_eq present, present, and_iff_right bound,
      Option.map_some, Option.any_some, ← nested.inside_iff present]
    by_cases ended : s.isFinished
    · simp [ended]
    by_cases marked : t.inside top i
    · -- Under a finished span nothing is open.
      have under := (nested.inside_iff present).1 marked
      have running : t.isFinished top = false := by
        by_contra stale
        have below := nested.finished_of_under under (by simpa using stale)
        rw [isFinished_eq present] at below
        exact ended below
      simp [running, marked, ended]
    · simp [marked]

end SpanTree

namespace World

variable {w : World ν} {h g : SpanRef}

/-- A span is another one or lies under it. -/
def Covers (w : World ν) (h g : SpanRef) : Prop :=
  ∃ t, w.trees[g.tree]? = some t ∧ g.index < t.spans.length ∧ h.tree = g.tree ∧
    t.Under h.index g.index

/-- Finishes spans one after the other, each at an instant. -/
def finishAll (w : World ν) (calls : List (Nat × SpanRef)) : World ν :=
  calls.foldl (fun w call => (Effect.finish call.2).apply (w.advance call.1)) w

theorem trees_finish (h : SpanRef) (w : World ν) :
    ((Effect.finish h).apply w).trees = w.trees.modify h.tree (·.finish h.index w.now) := rfl

theorem isFinished_iff : w.isFinished g ↔ ∃ t, w.trees[g.tree]? = some t ∧ t.isFinished g.index :=
  Option.any_eq_true _ _

theorem covers_finish_iff {k : SpanRef} :
    ((Effect.finish k).apply w).Covers h g ↔ w.Covers h g := by
  unfold Covers
  rw [trees_finish, List.getElem?_modify]
  cases w.trees[g.tree]? with
  | none => simp
  | some t =>
    have remade := SpanTree.remade_finish k.index w.now t
    by_cases here : k.tree = g.tree
    · simp [here, remade.length_eq, remade.under_iff]
    · simp [here]

theorem nested_finish (nested : ∀ t ∈ w.trees, t.Nested) (h : SpanRef) :
    ∀ t ∈ ((Effect.finish h).apply w).trees, t.Nested :=
  Sound.forall_mem_modify nested fun t tree =>
    (nested t (List.mem_of_getElem? tree)).finish h.index w.now

theorem isFinished_finish_iff (nested : ∀ t ∈ w.trees, t.Nested) :
    ((Effect.finish h).apply w).isFinished g ↔ w.isFinished g ∨ w.Covers h g := by
  rw [isFinished_iff, isFinished_iff, Covers, trees_finish, List.getElem?_modify]
  cases tree : w.trees[g.tree]? with
  | none => simp
  | some t =>
    have inner := nested t (List.mem_of_getElem? tree)
    by_cases here : h.tree = g.tree
    · simp [here, inner.isFinished_finish_iff]
    · simp [here]

/-- The spans that are finished after a list of calls are those that were before and what lies under
those that were called for. -/
theorem isFinished_finishAll_iff (nested : ∀ t ∈ w.trees, t.Nested) (calls : List (Nat × SpanRef)) :
    (w.finishAll calls).isFinished g ↔
      w.isFinished g ∨ ∃ call ∈ calls, w.Covers call.2 g := by
  induction calls generalizing w with
  | nil => simp [finishAll]
  | cons call rest ih =>
    have advanced : ∀ t ∈ (w.advance call.1).trees, t.Nested := nested
    have moved (h : SpanRef) : (w.advance call.1).Covers h g ↔ w.Covers h g := Iff.rfl
    have still : (w.advance call.1).isFinished g = w.isFinished g := rfl
    rw [finishAll, List.foldl_cons, ← finishAll, ih (nested_finish advanced call.2),
      isFinished_finish_iff advanced]
    simp only [covers_finish_iff, moved, still, List.mem_cons, exists_eq_or_imp, or_assoc]

end World

end Ingress
