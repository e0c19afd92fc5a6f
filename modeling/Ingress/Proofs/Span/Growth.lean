import Ingress.Proofs.Span.Descent

/-!
# Growth of trees

A tree begins with its root, and every operation on it leaves it nested: its spans stay at their
places under parents that come before them, and nothing is open under a finished span. Through
handles that address their spans it stays well formed too: the spans carry the names of the tree.
-/

namespace Ingress.SpanTree

open Ingress.Span

variable {t : SpanTree}

/-- The origin of a span fits its place in the tree. -/
structure Fits (t : SpanTree) (i : Nat) (o : Origin) : Prop where
  id_eq : o.id = t.id i
  trace_eq : o.trace = t.trace
  parentId_eq : o.parentId = o.parent.map t.id
  /-- Only the first span has no parent. -/
  parent_eq_none : o.parent = none ↔ i = 0
  parent_lt : ∀ p, o.parent = some p → p < i

/-- Every span but the first lies under one that comes before it, and nothing is open under a
finished span. -/
structure Nested (t : SpanTree) : Prop where
  rooted : 0 < t.spans.length
  /-- Only the first span has no parent. -/
  parent_eq_none : ∀ (i : Nat) (s : Span), t.spans[i]? = some s → (s.parent = none ↔ i = 0)
  parent_lt : ∀ (i : Nat) (s : Span) (p : Nat), t.spans[i]? = some s → s.parent = some p → p < i
  /-- The children of a finished span are finished. -/
  closed : ∀ (i : Nat) (s : Span) (p : Nat), t.spans[i]? = some s → s.parent = some p →
    t.isFinished p → s.isFinished

/-- A tree as it comes about. -/
structure WellFormed (t : SpanTree) : Prop where
  rooted : 0 < t.spans.length
  fits : ∀ i o, (t.spans.map origin)[i]? = some o → t.Fits i o
  /-- The children of a finished span are finished. -/
  closed : ∀ (i : Nat) (s : Span) (p : Nat), t.spans[i]? = some s → s.parent = some p →
    t.isFinished p → s.isFinished

/-- A span has its origin at its place. -/
theorem WellFormed.fits_of (wf : t.WellFormed) {i : Nat} {s : Span}
    (present : t.spans[i]? = some s) : t.Fits i s.origin :=
  wf.fits i s.origin (by simp [present])

theorem WellFormed.nested (wf : t.WellFormed) : t.Nested where
  rooted := wf.rooted
  parent_eq_none _ _ present := (wf.fits_of present).parent_eq_none
  parent_lt _ _ p present parent := (wf.fits_of present).parent_lt p parent
  closed := wf.closed

theorem wellFormed_root (name trace rootName : String) :
    (root name trace rootName).WellFormed where
  rooted := Nat.one_pos
  fits := by
    rintro (_ | i) o present
    · cases present
      exact ⟨rfl, rfl, rfl, by simp [origin, Span.start], by simp [origin, Span.start]⟩
    · cases present
  closed := by
    rintro (_ | i) s p present parent
    · cases present
      cases parent
    · cases present

/-- One tree is another one whose spans were changed at their places. -/
structure Remade (t t' : SpanTree) (f : Nat → Span → Span) : Prop where
  name_eq : t'.name = t.name
  trace_eq : t'.trace = t.trace
  spans_eq : ∀ i, t'.spans[i]? = (t.spans[i]?).map (f i)
  origin_eq : ∀ i s, (f i s).origin = s.origin

theorem remade_modifyOpen (place : Nat) (c : Change) (t : SpanTree) :
    t.Remade (t.modifyOpen place (change c)) fun i s =>
      if place = i ∧ ¬ s.isFinished then change c s else s where
  name_eq := rfl
  trace_eq := rfl
  spans_eq i := by
    refine (List.getElem?_modify _ _ _ _).trans ?_
    cases t.spans[i]? with
    | none => rfl
    | some s =>
      by_cases here : place = i <;> by_cases finished : s.isFinished <;> simp [here, finished]
  origin_eq i s := by
    split
    · exact origin_change c s
    · rfl

theorem remade_finish (top instant : Nat) (t : SpanTree) :
    t.Remade (t.finish top instant) fun i s =>
      if !t.isFinished top && t.inside top i && !s.isFinished then s.finish instant else s where
  name_eq := by
    unfold finish
    split <;> rfl
  trace_eq := by
    unfold finish
    split <;> rfl
  spans_eq i := getElem?_finish top instant i t
  origin_eq i s := by
    split <;> rfl

namespace Remade

variable {t' : SpanTree} {f : Nat → Span → Span} (remade : t.Remade t' f)
include remade

/-- Spans keep their origins. -/
theorem map_origin (i : Nat) : (t'.spans[i]?).map origin = (t.spans[i]?).map origin := by
  rw [remade.spans_eq, Option.map_map]
  exact congrFun (congrArg Option.map (funext (remade.origin_eq i))) _

theorem origins_eq : t'.spans.map origin = t.spans.map origin := by
  refine List.ext_getElem? fun i => ?_
  rw [List.getElem?_map, List.getElem?_map, remade.map_origin]

theorem length_eq : t'.spans.length = t.spans.length := by
  simpa using congrArg List.length remade.origins_eq

/-- Where there is a span there was one, of the same origin. -/
theorem of_present {i : Nat} {s' : Span} (present : t'.spans[i]? = some s') :
    ∃ s, t.spans[i]? = some s ∧ s' = f i s ∧ s'.origin = s.origin := by
  rw [remade.spans_eq] at present
  obtain ⟨s, there, rfl⟩ := Option.map_eq_some_iff.1 present
  exact ⟨s, there, rfl, remade.origin_eq i s⟩

/-- A tree stays nested when finished spans still have only finished children. -/
theorem nested (nested : t.Nested)
    (closed : ∀ (i : Nat) (s : Span) (p : Nat), t.spans[i]? = some s → s.parent = some p →
      t'.isFinished p → (f i s).isFinished) : t'.Nested where
  rooted := remade.length_eq ▸ nested.rooted
  parent_eq_none i s' present := by
    obtain ⟨s, there, -, same⟩ := remade.of_present present
    rw [parent_eq_of_origin same]
    exact nested.parent_eq_none i s there
  parent_lt i s' p present parent := by
    obtain ⟨s, there, -, same⟩ := remade.of_present present
    exact nested.parent_lt i s p there (parent_eq_of_origin same ▸ parent)
  closed i s' p present parent ended := by
    obtain ⟨s, there, rfl, same⟩ := remade.of_present present
    exact closed i s p there (parent_eq_of_origin same ▸ parent) ended

/-- A well-formed tree stays so when it stays nested. -/
theorem wellFormed (wf : t.WellFormed) (nested : t'.Nested) : t'.WellFormed where
  rooted := nested.rooted
  fits i o present := by
    have id_eq : t'.id = t.id := by
      funext place
      rw [SpanTree.id, SpanTree.id, remade.name_eq]
    rw [List.getElem?_map, remade.map_origin, ← List.getElem?_map] at present
    have fits := wf.fits i o present
    exact ⟨by rw [id_eq, fits.id_eq], by rw [remade.trace_eq, fits.trace_eq],
      by rw [id_eq, fits.parentId_eq], fits.parent_eq_none, fits.parent_lt⟩
  closed := nested.closed

end Remade

theorem spans_startChild {parent : SpanRef} (opened : t.isOpen parent.index) (name : String) :
    (t.startChild parent name).spans = t.spans ++
      [Span.start (t.id t.spans.length) t.trace name (some (parent.index, parent.id))] := by
  rw [SpanTree.startChild, child?, if_pos opened]

theorem startChild_of_not_isOpen {parent : SpanRef} (shut : ¬ t.isOpen parent.index)
    (name : String) : t.startChild parent name = t := by
  rw [SpanTree.startChild, child?, if_neg shut]

theorem name_startChild (parent : SpanRef) (name : String) :
    (t.startChild parent name).name = t.name := by
  unfold SpanTree.startChild
  split <;> rfl

theorem trace_startChild (parent : SpanRef) (name : String) :
    (t.startChild parent name).trace = t.trace := by
  unfold SpanTree.startChild
  split <;> rfl

theorem getElem?_concat_eq_some {α : Type} {xs : List α} {x y : α} {i : Nat} :
    (xs ++ [x])[i]? = some y ↔ xs[i]? = some y ∨ i = xs.length ∧ x = y := by
  by_cases old : i < xs.length
  · rw [List.getElem?_append_left old]
    simp [Nat.ne_of_lt old]
  · have beyond := Nat.le_of_not_lt old
    rw [List.getElem?_append_right beyond, List.getElem?_eq_none beyond]
    by_cases last : i = xs.length
    · simp [last]
    · rw [List.getElem?_eq_none]
      · simp [last]
      · simp only [List.length_singleton]
        omega

namespace Nested

variable (nested : t.Nested)
include nested

/-- What lies under a finished span is finished. -/
theorem finished_of_under {top i : Nat} (under : t.Under top i)
    (finished : t.isFinished top) : t.isFinished i := by
  induction under with
  | self => exact finished
  | child _ present parent ih =>
    have ended := nested.closed _ _ _ present parent ih
    simp [isFinished, present, ended]

/-- Every span lies under the root. -/
theorem under_root {i : Nat} {s : Span} (present : t.spans[i]? = some s) : t.Under 0 i := by
  induction i using Nat.strongRecOn generalizing s with
  | _ i ih =>
    cases parent : s.parent with
    | none =>
      obtain rfl := (nested.parent_eq_none i s present).1 parent
      exact .self
    | some p =>
      have before := nested.parent_lt i s p present parent
      have bound := (List.getElem?_eq_some_iff.1 present).1
      exact .child (ih p before (List.getElem?_eq_getElem (by omega))) present parent

/-- A change of an open span keeps a tree nested. -/
theorem modifyOpen (place : Nat) (c : Change) : (t.modifyOpen place (change c)).Nested := by
  have remade := remade_modifyOpen place c t
  have sameEnd (i : Nat) (s : Span) :
      (if place = i ∧ ¬ s.isFinished then change c s else s).isFinished = s.isFinished := by
    split
    · exact isFinished_change c s
    · rfl
  refine remade.nested nested fun i s p present parent ended => ?_
  rw [sameEnd]
  refine nested.closed i s p present parent ?_
  rw [isFinished, remade.spans_eq] at ended
  simpa only [isFinished, Function.comp_def, sameEnd, Option.any_map] using ended

/-- Finishing a span keeps a tree nested: the one pass reaches every open descendant. -/
theorem finish (top instant : Nat) : (t.finish top instant).Nested := by
  by_cases stale : t.isFinished top
  · rwa [SpanTree.finish, if_pos stale]
  have remade := remade_finish top instant t
  simp only [stale, Bool.not_false, Bool.true_and] at remade
  refine remade.nested nested fun i s p present parent ended => ?_
  by_cases marked : t.inside top i
  · by_cases finished : s.isFinished <;> simp [marked, finished]
  · -- The parent is not marked either, so it was finished before, and with it this span.
    have before := nested.parent_lt i s p present parent
    have unmarked : ¬ t.inside top p := fun above =>
      marked ((marks_iff present).2 (.inr ⟨p, parent, before, above⟩))
    rw [isFinished, remade.spans_eq] at ended
    have finished : t.isFinished p := by simpa [unmarked, isFinished] using ended
    simpa [marked] using nested.closed i s p present parent finished

/-- A new child keeps a tree nested, since its parent is open. -/
theorem startChild (parent : SpanRef) (name : String) : (t.startChild parent name).Nested := by
  by_cases opened : t.isOpen parent.index
  swap
  · rwa [startChild_of_not_isOpen opened]
  have spans_eq := spans_startChild opened name
  obtain ⟨p, present, running⟩ : ∃ p, t.spans[parent.index]? = some p ∧ p.isFinished = false := by
    simpa [isOpen, Option.any_eq_true] using opened
  have early : parent.index < t.spans.length := (List.getElem?_eq_some_iff.1 present).1
  refine ⟨by simp [spans_eq], fun i s there => ?_, fun i s q there under => ?_,
    fun i s q there under ended => ?_⟩
  · rw [spans_eq, getElem?_concat_eq_some] at there
    rcases there with old | ⟨rfl, rfl⟩
    · exact nested.parent_eq_none i s old
    · have late : t.spans.length ≠ 0 := Nat.ne_of_gt nested.rooted
      simp [Span.start, late]
  · rw [spans_eq, getElem?_concat_eq_some] at there
    rcases there with old | ⟨rfl, rfl⟩
    · exact nested.parent_lt i s q old under
    · cases under
      exact early
  · rw [spans_eq, getElem?_concat_eq_some] at there
    obtain ⟨q', present', finished⟩ := Option.any_eq_true _ _ |>.1 ended
    rw [spans_eq, getElem?_concat_eq_some] at present'
    have older : t.isFinished q := by
      rcases present' with old | ⟨-, rfl⟩
      · simpa [isFinished, old] using finished
      · cases finished
    rcases there with old | ⟨rfl, rfl⟩
    · exact nested.closed i s q old under older
    · cases under
      simp [isFinished, present, running] at older

end Nested

namespace WellFormed

variable (wf : t.WellFormed)
include wf

theorem modifyOpen (place : Nat) (c : Change) : (t.modifyOpen place (change c)).WellFormed :=
  (remade_modifyOpen place c t).wellFormed wf (wf.nested.modifyOpen place c)

theorem finish (top instant : Nat) : (t.finish top instant).WellFormed :=
  (remade_finish top instant t).wellFormed wf (wf.nested.finish top instant)

/-- A child that is started through a handle of its parent fits into the tree. -/
theorem startChild {parent : SpanRef} (known : parent.id = t.id parent.index) (name : String) :
    (t.startChild parent name).WellFormed := by
  by_cases opened : t.isOpen parent.index
  swap
  · rwa [startChild_of_not_isOpen opened]
  have nested := wf.nested.startChild parent name
  have id_eq : (t.startChild parent name).id = t.id := by
    funext place
    rw [SpanTree.id, SpanTree.id, name_startChild]
  refine ⟨nested.rooted, fun i o there => ?_, nested.closed⟩
  obtain ⟨s, present, rfl⟩ : ∃ s, (t.startChild parent name).spans[i]? = some s ∧ s.origin = o := by
    simpa using there
  suffices fits : s.origin.id = t.id i ∧ s.origin.trace = t.trace ∧
      s.origin.parentId = s.origin.parent.map t.id by
    exact ⟨by rw [id_eq, fits.1], by rw [trace_startChild, fits.2.1], by rw [id_eq, fits.2.2],
      nested.parent_eq_none i s present, fun p parent => nested.parent_lt i s p present parent⟩
  rw [spans_startChild opened, getElem?_concat_eq_some] at present
  rcases present with old | ⟨rfl, rfl⟩
  · have fits := wf.fits_of old
    exact ⟨fits.id_eq, fits.trace_eq, fits.parentId_eq⟩
  · exact ⟨rfl, rfl, congrArg some known⟩

end WellFormed

end Ingress.SpanTree
