import Ingress.Span.Change
import Mathlib.Data.List.Induction

/-!
# Descent

Which spans lie under which. The one pass over a tree that finishes a span finds its descendants and
no other spans, because parents come before their children.
-/

namespace Ingress

/-- What of a span no change touches: its names, its trace and the place of its parent. -/
structure Span.Origin where
  id : Span.Id
  parentId : Option Span.Id
  trace : String
  parent : Option Nat
deriving DecidableEq

namespace Span

/-- The origin of a span. -/
def origin (s : Span) : Origin := ⟨s.id, s.parentId, s.trace, s.parent⟩

@[simp] theorem isFinished_finish (instant : Nat) (s : Span) : (s.finish instant).isFinished :=
  rfl

@[simp] theorem origin_change (c : Change) (s : Span) : (change c s).origin = s.origin := by
  cases c <;> rfl

@[simp] theorem isFinished_change (c : Change) (s : Span) :
    (change c s).isFinished = s.isFinished := by
  rw [isFinished, isFinished, ended_change]

theorem parent_eq_of_origin {s s' : Span} (same : s'.origin = s.origin) : s'.parent = s.parent :=
  congrArg Origin.parent same

end Span

namespace SpanTree

/-- A span is another one of the tree or lies under it. -/
inductive Under (t : SpanTree) (top : Nat) : Nat → Prop
  | self : Under t top top
  | child {i p : Nat} {s : Span} :
      Under t top p → t.spans[i]? = some s → s.parent = some p → Under t top i

/-- Whether a span is found to be the one at `top` or under it. -/
def inside (top i : Nat) (t : SpanTree) : Bool := (marks top t.spans)[i]?.getD false

theorem marks_concat (top : Nat) (spans : List Span) (s : Span) :
    marks top (spans ++ [s]) = marks top spans ++
      [spans.length == top || s.parent.any fun p => (marks top spans)[p]?.getD false] := by
  have length := marks_length top spans
  rw [marks, List.foldl_append, List.foldl_cons, List.foldl_nil, ← marks, length]

theorem marks_concat_of_lt {top i : Nat} {spans : List Span} (s : Span) (early : i < spans.length) :
    (marks top (spans ++ [s]))[i]? = (marks top spans)[i]? := by
  rw [marks_concat, List.getElem?_append_left (by rwa [marks_length])]

/-- A span is marked if it is the one in question or its parent was marked before it. -/
theorem marks_iff {top i : Nat} {spans : List Span} {s : Span} (present : spans[i]? = some s) :
    (marks top spans)[i]?.getD false ↔
      i = top ∨ ∃ p, s.parent = some p ∧ p < i ∧ (marks top spans)[p]?.getD false := by
  induction spans using List.reverseRecOn with
  | nil => cases present
  | append_singleton xs last ih =>
    have bound : i < xs.length + 1 := by
      simpa using (List.getElem?_eq_some_iff.1 present).1
    have earlier : ∀ p, p < i → (marks top (xs ++ [last]))[p]? = (marks top xs)[p]? :=
      fun p before => marks_concat_of_lt last (by omega)
    have same : (∃ p, s.parent = some p ∧ p < i ∧ (marks top (xs ++ [last]))[p]?.getD false) ↔
        ∃ p, s.parent = some p ∧ p < i ∧ (marks top xs)[p]?.getD false :=
      exists_congr fun p => and_congr_right fun _ => and_congr_right fun before => by
        rw [earlier p before]
    rw [same]
    by_cases early : i < xs.length
    · rw [List.getElem?_append_left early] at present
      rw [marks_concat_of_lt last early]
      exact ih present
    · obtain rfl : i = xs.length := by omega
      obtain rfl : last = s := by simpa using present
      have length := marks_length top xs
      rw [marks_concat, List.getElem?_append_right (by omega), length]
      simp only [Nat.sub_self, List.getElem?_cons_zero, Option.getD_some, Bool.or_eq_true,
        beq_iff_eq, Option.any_eq_true]
      refine or_congr_right (exists_congr fun p => and_congr_right fun _ => ?_)
      refine ⟨fun marked => ⟨?_, marked⟩, And.right⟩
      by_contra beyond
      rw [List.getElem?_eq_none (by omega)] at marked
      cases marked

/-- What is marked is at the place in question or under it. -/
theorem under_of_inside {top i : Nat} {t : SpanTree} (marked : t.inside top i) :
    t.Under top i := by
  induction i using Nat.strongRecOn with
  | _ i ih =>
    cases present : t.spans[i]? with
    | none =>
      have length := marks_length top t.spans
      rw [inside, List.getElem?_eq_none] at marked
      · cases marked
      · rw [length]
        exact List.getElem?_eq_none_iff.1 present
    | some s =>
      rcases (marks_iff present).1 marked with rfl | ⟨p, parent, before, marked⟩
      · exact .self
      · exact .child (ih p before marked) present parent

/-- The places of the spans that finishing one changes keep all but the instants of their ends. -/
theorem getElem?_finish (top instant i : Nat) (t : SpanTree) :
    (t.finish top instant).spans[i]? = (t.spans[i]?).map fun s =>
      if !t.isFinished top && t.inside top i && !s.isFinished then s.finish instant else s := by
  unfold finish
  cases t.isFinished top with
  | true => simp
  | false =>
    have length := marks_length top t.spans
    simp only [Bool.false_eq_true, if_false, Bool.not_false, Bool.true_and]
    rw [List.getElem?_zipWith]
    cases present : t.spans[i]? with
    | none => rfl
    | some s =>
      have bound : i < (marks top t.spans).length := by
        rw [length]
        exact (List.getElem?_eq_some_iff.1 present).1
      rw [inside, List.getElem?_eq_getElem bound]
      rfl

/-- Finishing a span leaves the spans as they are that do not lie under it. -/
theorem getElem?_finish_of_not_under {top i : Nat} {t : SpanTree} (apart : ¬ t.Under top i)
    (instant : Nat) : (t.finish top instant).spans[i]? = t.spans[i]? := by
  have unmarked : t.inside top i = false := by
    by_contra marked
    exact apart (under_of_inside (by simpa using marked))
  rw [getElem?_finish, unmarked]
  simp

/-- A change of one span leaves the others as they are. -/
theorem getElem?_modifyOpen_of_ne {i j : Nat} (apart : i ≠ j) (f : Span → Span) (t : SpanTree) :
    (t.modifyOpen i f).spans[j]? = t.spans[j]? := by
  exact List.getElem?_modify_ne _ _ apart

end SpanTree

end Ingress
