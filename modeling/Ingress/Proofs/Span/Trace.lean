import Ingress.Proofs.Activity.Course
import Ingress.Proofs.Span.History

/-!
# What lasts of a tree

Some of what holds of a tree holds of it for ever, whatever happens to the world: that its spans are
nested, and that they are all of one trace, from the root that it begins with to those that are
started at any time later.
-/

namespace Ingress

open Activity Relation

/-- A tree with its root, all of whose spans are of one trace. -/
structure SpanTree.OfTrace (trace : String) (t : SpanTree) : Prop where
  rooted : 0 < t.spans.length
  own : t.trace = trace
  spans : ∀ s ∈ t.spans, s.trace = trace

namespace SpanTree.OfTrace

open Ingress.Span

variable {trace : String} {t : SpanTree}

theorem root (name trace rootName : String) :
    (SpanTree.root name trace rootName).OfTrace trace where
  rooted := Nat.one_pos
  own := rfl
  spans := List.forall_mem_singleton.2 rfl

theorem startChild (of : t.OfTrace trace) (parent : SpanRef) (name : String) :
    (t.startChild parent name).OfTrace trace := by
  unfold SpanTree.startChild
  split
  · refine ⟨by simp, of.own, List.forall_mem_append.2 ⟨of.spans, ?_⟩⟩
    exact List.forall_mem_singleton.2 of.own
  · exact of

theorem remade {t' : SpanTree} {f : Nat → Span → Span} (of : t.OfTrace trace)
    (remade : t.Remade t' f) : t'.OfTrace trace where
  rooted := remade.length_eq ▸ of.rooted
  own := remade.trace_eq.trans of.own
  spans := by
    intro s' member
    obtain ⟨i, there⟩ := List.mem_iff_getElem?.1 member
    obtain ⟨s, present, -, same⟩ := remade.of_present there
    exact (congrArg Origin.trace same).trans (of.spans s (List.mem_of_getElem? present))

end SpanTree.OfTrace

namespace SpanTree

/-- What no operation on a tree puts an end to. -/
structure Lasting (P : SpanTree → Prop) : Prop where
  startChild : ∀ t, P t → ∀ parent name, P (t.startChild parent name)
  modifyOpen : ∀ t, P t → ∀ place c, P (t.modifyOpen place (Span.change c))
  finish : ∀ t, P t → ∀ top instant, P (t.finish top instant)

theorem lasting_nested : Lasting Nested where
  startChild _ nested := nested.startChild
  modifyOpen _ nested := nested.modifyOpen
  finish _ nested := nested.finish

theorem lasting_ofTrace (trace : String) : Lasting (OfTrace trace) where
  startChild _ of := of.startChild
  modifyOpen t of place c := of.remade (remade_modifyOpen place c t)
  finish t of top instant := of.remade (remade_finish top instant t)

end SpanTree

/-- One thing that happens to a world, whoever does it. -/
inductive Moment : World ν → World ν → Prop
  | act {w : World ν} (effect : Effect ν) : Moment w (effect.apply w)
  | tick {w : World ν} (instant : Nat) : Moment w (w.advance instant)

/-- What a world may become. -/
def Later : World ν → World ν → Prop := ReflTransGen Moment

/-- In company that only lets things happen, an activity leaves what is later. -/
theorem later_course {others : World ν → World ν → Prop} {a : Activity ν α} {w : World ν}
    {ds : List (Deed ν)} {e : Ending ν α} (moments : ∀ w w', others w w' → Later w w')
    (course : Course others a w ds e) : Later w e.world := by
  induction course with
  | done | panic | forever => exact .refl
  | act moved _ ih =>
    have meanwhile := moments _ _ moved
    exact .head (.act _) (meanwhile.trans ih)
  | wait moved moved' _ ih =>
    have before := moments _ _ moved
    have meanwhile := moments _ _ moved'
    exact before.trans (.head (.tick _) (meanwhile.trans ih))

/-- A deed comes after the beginning of a course and before its end. -/
theorem later_deed {others : World ν → World ν → Prop} {a : Activity ν α} {w : World ν}
    {ds : List (Deed ν)} {e : Ending ν α} (moments : ∀ w w', others w w' → Later w w')
    (course : Course others a w ds e) :
    ∀ d ∈ ds, Later w d.met ∧ Later (d.effect.apply d.met) e.world := by
  induction course with
  | done | panic | forever => exact List.forall_mem_nil _
  | @act effect _ w _ _ _ moved course ih =>
    have meanwhile := moments _ _ moved
    refine List.forall_mem_cons.2 ⟨⟨.refl, ?_⟩, fun d member => ?_⟩
    · exact meanwhile.trans (later_course moments course)
    · obtain ⟨before, after⟩ := ih d member
      exact ⟨.head (.act effect) (meanwhile.trans before), after⟩
  | wait moved moved' _ ih =>
    have before := moments _ _ moved
    have meanwhile := moments _ _ moved'
    intro d member
    obtain ⟨earlier, after⟩ := ih d member
    exact ⟨before.trans (.head (.tick _) (meanwhile.trans earlier)), after⟩

namespace World

variable {w w' : World ν} {tree : Nat} {trace : String} {P : SpanTree → Prop}

/-- A tree of the world is there and is so. -/
def Has (tree : Nat) (P : SpanTree → Prop) (w : World ν) : Prop :=
  ∃ t, w.trees[tree]? = some t ∧ P t

/-- A tree of the world has its root, and all of its spans are of one trace. -/
def Carries (tree : Nat) (trace : String) (w : World ν) : Prop :=
  ∃ t, w.trees[tree]? = some t ∧ t.OfTrace trace

/-- Whatever happens does not put an end to what lasts of a tree. -/
theorem Has.apply (lasting : SpanTree.Lasting P) (has : w.Has tree P) (e : Effect ν) :
    (e.apply w).Has tree P := by
  obtain ⟨t, there, holds⟩ := has
  have modified (k : Nat) (f : SpanTree → SpanTree) (kept : P (f t)) :
      ∃ t, (w.trees.modify k f)[tree]? = some t ∧ P t := by
    rw [List.getElem?_modify, there]
    by_cases here : k = tree
    · exact ⟨f t, by simp [here], kept⟩
    · exact ⟨t, by simp [here], holds⟩
  cases e with
  | plant label name rootName =>
    refine ⟨t, ?_, holds⟩
    exact (List.getElem?_append_left (List.getElem?_eq_some_iff.1 there).1).trans there
  | branch parent name => exact modified _ _ (lasting.startChild t holds parent name)
  | touch span c => exact modified _ _ (lasting.modifyOpen t holds span.index c)
  | finish span => exact modified _ _ (lasting.finish t holds span.index w.now)
  | look | send _ | draw | report _ | record _ | app _ => exact ⟨t, there, holds⟩

theorem Has.later (lasting : SpanTree.Lasting P) (has : w.Has tree P) (moved : Later w w') :
    w'.Has tree P := by
  induction moved with
  | refl => exact has
  | tail _ last ih =>
    cases last with
    | act effect => exact ih.apply lasting effect
    | tick => exact ih

theorem carries_plant (label trace rootName : String) (w : World ν) :
    ((Effect.plant label trace rootName).apply w).Carries w.trees.length trace :=
  ⟨_, List.getElem?_concat_length, .root label trace rootName⟩

/-- Whatever happens, the spans of a tree stay of its trace. -/
theorem Carries.apply (carries : w.Carries tree trace) (e : Effect ν) :
    (e.apply w).Carries tree trace := Has.apply (SpanTree.lasting_ofTrace trace) carries e

theorem Carries.later (carries : w.Carries tree trace) (moved : Later w w') :
    w'.Carries tree trace := Has.later (SpanTree.lasting_ofTrace trace) carries moved

end World

end Ingress
