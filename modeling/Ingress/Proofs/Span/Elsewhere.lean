import Ingress.Proofs.Activity.Assurance
import Ingress.Proofs.Span.History

/-!
# Work elsewhere

What others do elsewhere leaves a span alone that only one activity has a handle of, as long as they
do not finish it from above. So that activity knows its span: it is as its own changes made it.
-/

namespace Ingress

open Activity Relation

/-- The effect neither changes a span nor finishes it, be it itself or through a span above it. -/
def Effect.SparesIn (w : World ν) (span : SpanRef) : Effect ν → Prop
  | touch other _ => ¬ (other.tree = span.tree ∧ other.index = span.index)
  | finish other => other.tree = span.tree →
      ∀ t, w.trees[span.tree]? = some t → ¬ t.Under other.index span.index
  | _ => True

/-- One thing that others do elsewhere. -/
inductive Sparing (span : SpanRef) : World ν → World ν → Prop
  | act {w : World ν} {effect : Effect ν} :
      effect.SparesIn w span → Sparing span w (effect.apply w)
  | tick {w : World ν} {instant : Nat} : Sparing span w (w.advance instant)

/-- What others do elsewhere, in many steps or none. -/
def Elsewhere (span : SpanRef) : World ν → World ν → Prop := ReflTransGen (Sparing span)

namespace World

variable {w : World ν} {span : SpanRef} {s : Span}

theorem span?_eq_some :
    w.span? span = some s ↔ ∃ t, w.trees[span.tree]? = some t ∧ t.spans[span.index]? = some s :=
  Option.bind_eq_some_iff

theorem span?_modify {k : Nat} {f : SpanTree → SpanTree} {t : SpanTree} {s' : Span}
    (tree : w.trees[span.tree]? = some t) (here : k = span.tree)
    (present : (f t).spans[span.index]? = some s') :
    ∃ t, (w.trees.modify k f)[span.tree]? = some t ∧ t.spans[span.index]? = some s' := by
  subst here
  exact ⟨f t, by simp [tree], present⟩

/-- An effect elsewhere leaves the span as it is. -/
theorem span?_apply_of_sparesIn {e : Effect ν} (spares : e.SparesIn w span)
    (present : w.span? span = some s) : (e.apply w).span? span = some s := by
  obtain ⟨t, tree, there⟩ := span?_eq_some.1 present
  have modified (k : Nat) (f : SpanTree → SpanTree)
      (kept : k = span.tree → (f t).spans[span.index]? = some s) :
      ∃ t, (w.trees.modify k f)[span.tree]? = some t ∧ t.spans[span.index]? = some s := by
    by_cases here : k = span.tree
    · exact span?_modify tree here (kept here)
    · exact ⟨t, by simp [here, tree], there⟩
  refine span?_eq_some.2 ?_
  cases e with
  | plant label trace rootName =>
    refine ⟨t, ?_, there⟩
    exact (List.getElem?_append_left (List.getElem?_eq_some_iff.1 tree).1).trans tree
  | branch parent name =>
    refine modified _ _ fun _ => ?_
    unfold SpanTree.startChild
    split
    · exact (List.getElem?_append_left (List.getElem?_eq_some_iff.1 there).1).trans there
    · exact there
  | touch other c =>
    refine modified _ _ fun here => ?_
    have apart : other.index ≠ span.index := fun same => spares ⟨here, same⟩
    rw [SpanTree.getElem?_modifyOpen_of_ne apart]
    exact there
  | finish other =>
    refine modified _ _ fun here => ?_
    rw [SpanTree.getElem?_finish_of_not_under (spares here t tree)]
    exact there
  | look | send _ | draw | report _ | record _ | app _ => exact ⟨t, tree, there⟩

theorem span?_of_elsewhere {w' : World ν} (moved : Elsewhere span w w')
    (present : w.span? span = some s) : w'.span? span = some s := by
  induction moved with
  | refl => exact present
  | tail _ last ih =>
    cases last with
    | act spares => exact span?_apply_of_sparesIn spares ih
    | tick => exact ih

/-- A change of an open span. -/
theorem span?_touch (present : w.span? span = some s) (running : s.isFinished = false)
    (c : Span.Change) :
    ((Effect.touch span c).apply w).span? span = some (Span.change c s) := by
  obtain ⟨t, tree, there⟩ := span?_eq_some.1 present
  refine span?_eq_some.2 (span?_modify tree rfl ?_)
  simp [SpanTree.modifyOpen, there, running]

/-- The end of an open span. -/
theorem span?_finish (present : w.span? span = some s) (running : s.isFinished = false) :
    ((Effect.finish span).apply w).span? span = some (s.finish w.now) := by
  obtain ⟨t, tree, there⟩ := span?_eq_some.1 present
  have opened : t.isFinished span.index = false := by simp [SpanTree.isFinished, there, running]
  have itself : t.inside span.index span.index :=
    (SpanTree.marks_iff there).2 (.inl rfl)
  refine span?_eq_some.2 (span?_modify tree rfl ?_)
  rw [SpanTree.getElem?_finish, there]
  simp [opened, itself, running]

/-- A child of an open span. -/
theorem span?_branch {parent : SpanRef} {t : SpanTree} (tree : w.trees[parent.tree]? = some t)
    (opened : t.isOpen parent.index) (name : String) :
    ((Effect.branch parent name).apply w).span?
        ⟨parent.tree, t.spans.length, t.id t.spans.length⟩ =
      some (.start (t.id t.spans.length) t.trace name (some (parent.index, parent.id))) := by
  refine span?_eq_some.2 ⟨t.startChild parent name, by simp [Effect.apply, tree], ?_⟩
  rw [SpanTree.spans_startChild opened, List.getElem?_concat_length]

end World

namespace Activity

variable {w : World ν} {span : SpanRef} {s : Span} {ds : List (Deed ν)}

/-- Neither an activity that leaves a span alone nor others elsewhere change it. -/
theorem span?_of_course {a : Activity ν α} {e : Ending ν α}
    (course : Course (Elsewhere span) a w ds e)
    (only : a.Only fun effect => ∀ w, effect.SparesIn w span) (present : w.span? span = some s) :
    e.world.span? span = some s := by
  refine course.invariant (P := fun w => w.span? span = some s) ?_ ?_ ?_ only present
  · exact fun effect spares w there => World.span?_apply_of_sparesIn (spares w) there
  · exact fun w instant there => there
  · exact fun w w' moved there => World.span?_of_elsewhere moved there

/-- An activity that begins with a change of its own span. -/
theorem course_touch {c : Span.Change} {next : World ν → Activity ν α} {e : Ending ν α}
    (course : Course (Elsewhere span) (.act (.touch span c) next) w ds e)
    (present : w.span? span = some s) (running : s.isFinished = false) :
    ∃ later rest, ds = ⟨w, .touch span c⟩ :: rest ∧
      later.span? span = some (Span.change c s) ∧ (Span.change c s).isFinished = false ∧
      Course (Elsewhere span) (next w) later rest e := by
  obtain ⟨later, rest, rfl, moved, course⟩ := course_act_iff.1 course
  refine ⟨later, rest, rfl, ?_, ?_, course⟩
  · exact World.span?_of_elsewhere moved (World.span?_touch present running c)
  · rw [Span.isFinished_change, running]

/-- An activity that begins with an effect on something else. -/
theorem course_spare {effect : Effect ν} {next : World ν → Activity ν α} {e : Ending ν α}
    (course : Course (Elsewhere span) (.act effect next) w ds e)
    (spares : effect.SparesIn w span) (present : w.span? span = some s) :
    ∃ later rest, ds = ⟨w, effect⟩ :: rest ∧ later.span? span = some s ∧
      Course (Elsewhere span) (next w) later rest e := by
  obtain ⟨later, rest, rfl, moved, course⟩ := course_act_iff.1 course
  refine ⟨later, rest, rfl, ?_, course⟩
  exact World.span?_of_elsewhere moved (World.span?_apply_of_sparesIn spares present)

end Activity

end Ingress
