import Ingress.Proofs.Span.Growth
import Ingress.World
import Mathlib.Data.List.Basic
import Mathlib.Logic.Relation

/-!
# Histories of trees

Whoever works on a tree does so through handles that were given out before, and by starting trees
and children new ones are given out. Along every history all trees are well formed, every handle
addresses the span it was given out for, and no two of them address the same span.
-/

namespace Ingress

open Relation

namespace Effect

/-- The handles that an effect goes through. -/
def through : Effect ν → List SpanRef
  | branch parent _ => [parent]
  | touch span _ | finish span => [span]
  | _ => []

/-- The handle that an effect on a world gives out. -/
def given? (w : World ν) : Effect ν → Option SpanRef
  | plant label _ _ => some ⟨w.trees.length, 0, ⟨label, 0⟩⟩
  | branch parent _ => (w.child parent).toOption
  | _ => none

end Effect

/-- One step of a history: of the world and the handles given out in it so far. -/
inductive Step : World ν × List SpanRef → World ν × List SpanRef → Prop
  | act {w : World ν} {handles : List SpanRef} {effect : Effect ν} :
      (∀ s ∈ effect.through, s ∈ handles) →
      Step (w, handles) (effect.apply w, (effect.given? w).toList ++ handles)
  | tick {w : World ν} {handles : List SpanRef} {instant : Nat} :
      Step (w, handles) (w.advance instant, handles)

namespace SpanTree

open Ingress.Span

theorem origin_startChild {t : SpanTree} {i : Nat} {o : Origin} (parent : SpanRef) (name : String)
    (present : (t.spans[i]?).map origin = some o) :
    ((t.startChild parent name).spans[i]?).map origin = some o := by
  obtain ⟨s, there, rfl⟩ := Option.map_eq_some_iff.1 present
  unfold startChild
  split
  · rw [List.getElem?_append_left (List.getElem?_eq_some_iff.1 there).1, there]
    rfl
  · exact present

end SpanTree

namespace World

open Ingress.Span

variable {w : World ν}

/-- An effect on a tree that leaves it as it is leaves all trees as they are. -/
theorem trees_modify_of_same {k : Nat} {f : SpanTree → SpanTree}
    (same : ∀ t, w.trees[k]? = some t → f t = t) : w.trees.modify k f = w.trees := by
  refine List.ext_getElem? fun i => ?_
  rw [List.getElem?_modify]
  by_cases here : k = i
  · subst here
    cases tree : w.trees[k]? with
    | none => rfl
    | some t => simp [same t tree]
  · simp [here]

theorem trees_modify_of_present {k : Nat} {f : SpanTree → SpanTree} {t : SpanTree}
    (tree : w.trees[k]? = some t) : w.trees.modify k f = w.trees.set k (f t) := by
  rw [List.modify_eq_set_getElem?, tree]
  rfl

/-- The origin of a span. -/
def origin? (w : World ν) (h : SpanRef) : Option Origin := (w.span? h).map origin

/-- A handle addresses its own span. -/
def Addresses (w : World ν) (h : SpanRef) : Prop := ∃ o, w.origin? h = some o ∧ o.id = h.id

theorem origin?_eq_some {h : SpanRef} {o : Origin} :
    w.origin? h = some o ↔
      ∃ t, w.trees[h.tree]? = some t ∧ (t.spans[h.index]?).map origin = some o := by
  simp only [origin?, span?, tree?, Option.map_eq_some_iff, Option.bind_eq_some_iff]
  constructor
  · rintro ⟨s, ⟨t, tree, there⟩, rfl⟩
    exact ⟨t, tree, s, there, rfl⟩
  · rintro ⟨t, tree, s, there, rfl⟩
    exact ⟨s, ⟨t, tree, there⟩, rfl⟩

/-- Whatever happens, a span stays where it was started. -/
theorem origin?_apply {h : SpanRef} {o : Origin} (e : Effect ν) (present : w.origin? h = some o) :
    (e.apply w).origin? h = some o := by
  obtain ⟨t, tree, there⟩ := origin?_eq_some.1 present
  have modified (k : Nat) (f : SpanTree → SpanTree)
      (kept : ((f t).spans[h.index]?).map origin = some o) :
      ∃ t, (w.trees.modify k f)[h.tree]? = some t ∧ (t.spans[h.index]?).map origin = some o := by
    rw [List.getElem?_modify, tree]
    by_cases here : k = h.tree
    · exact ⟨f t, by simp [here], kept⟩
    · exact ⟨t, by simp [here], there⟩
  refine origin?_eq_some.2 ?_
  cases e with
  | plant label trace rootName =>
    refine ⟨t, ?_, there⟩
    rw [Effect.apply, List.getElem?_append_left (List.getElem?_eq_some_iff.1 tree).1, tree]
  | branch parent name => exact modified _ _ (SpanTree.origin_startChild parent name there)
  | touch span c =>
    have remade := SpanTree.remade_modifyOpen span.index c t
    exact modified _ _ ((remade.map_origin _).trans there)
  | finish span =>
    have remade := SpanTree.remade_finish span.index w.now t
    exact modified _ _ ((remade.map_origin _).trans there)
  | look | send _ | draw | report _ | record _ | app _ => exact ⟨t, tree, there⟩

/-- A span gets a child just when it is open. -/
theorem child_eq_ok {parent child : SpanRef} :
    w.child parent = .ok child ↔ ∃ t, w.trees[parent.tree]? = some t ∧ t.isOpen parent.index ∧
      child = ⟨parent.tree, t.spans.length, t.id t.spans.length⟩ := by
  unfold World.child World.tree? SpanTree.child?
  cases w.trees[parent.tree]? with
  | none => simp
  | some t =>
    by_cases opened : t.isOpen parent.index
    · simp only [Option.bind_some, if_pos opened, Except.ok.injEq, Option.some.injEq]
      exact ⟨fun same => ⟨t, rfl, opened, same.symm⟩, fun ⟨_, rfl, _, same⟩ => same.symm⟩
    · simp [opened]

end World

/-- What holds along every history. -/
structure Sound (w : World ν) (handles : List SpanRef) : Prop where
  wellFormed : ∀ t ∈ w.trees, t.WellFormed
  addressed : ∀ h ∈ handles, w.Addresses h
  distinct : (handles.map fun h => (h.tree, h.index)).Nodup

namespace Sound

open World

variable {w : World ν} {handles : List SpanRef}

theorem start (network : Downstream.Network) (draws : List Nat) (app : ν) :
    Sound (World.start network draws app) [] where
  wellFormed := List.forall_mem_nil _
  addressed := List.forall_mem_nil _
  distinct := List.nodup_nil

/-- The tree of a handle, with what the handle is in it. -/
theorem known (sound : Sound w handles) {h : SpanRef} (given : h ∈ handles) :
    ∃ t, w.trees[h.tree]? = some t ∧ h.index < t.spans.length ∧ h.id = t.id h.index := by
  obtain ⟨o, origin, same⟩ := sound.addressed h given
  obtain ⟨t, tree, there⟩ := origin?_eq_some.1 origin
  obtain ⟨s, present, rfl⟩ := Option.map_eq_some_iff.1 there
  have wf := sound.wellFormed t (List.mem_of_getElem? tree)
  exact ⟨t, tree, (List.getElem?_eq_some_iff.1 present).1,
    same.symm.trans (wf.fits_of present).id_eq⟩

theorem forall_mem_modify {α : Type} {p : α → Prop} {xs : List α} {k : Nat} {f : α → α}
    (all : ∀ x ∈ xs, p x) (kept : ∀ x, xs[k]? = some x → p (f x)) : ∀ x ∈ xs.modify k f, p x := by
  intro y member
  obtain ⟨i, at_⟩ := List.mem_iff_getElem?.1 member
  rw [List.getElem?_modify] at at_
  obtain ⟨x, there, rfl⟩ := Option.map_eq_some_iff.1 at_
  by_cases here : k = i
  · subst here
    simpa using kept x there
  · simpa [here] using all x (List.mem_of_getElem? there)

theorem wellFormed_apply (sound : Sound w handles) {effect : Effect ν}
    (through : ∀ s ∈ effect.through, s ∈ handles) : ∀ t ∈ (effect.apply w).trees, t.WellFormed := by
  have wf (k : Nat) (t : SpanTree) (tree : w.trees[k]? = some t) : t.WellFormed :=
    sound.wellFormed t (List.mem_of_getElem? tree)
  cases effect with
  | plant label trace rootName =>
    intro t member
    rcases List.mem_append.1 member with old | new
    · exact sound.wellFormed t old
    · rw [List.mem_singleton.1 new]
      exact SpanTree.wellFormed_root label trace rootName
  | branch parent name =>
    refine forall_mem_modify sound.wellFormed fun t tree => ?_
    obtain ⟨t', tree', -, same⟩ := sound.known (through parent (List.mem_singleton_self _))
    obtain rfl : t' = t := Option.some.inj (tree'.symm.trans tree)
    exact (wf _ t' tree).startChild same name
  | touch span c =>
    exact forall_mem_modify sound.wellFormed fun t tree => (wf _ t tree).modifyOpen span.index c
  | finish span =>
    exact forall_mem_modify sound.wellFormed fun t tree => (wf _ t tree).finish span.index w.now
  | look | send _ | draw | report _ | record _ | app _ => exact sound.wellFormed

/-- A handle that is given out is new and addresses its own span. -/
theorem given_new {effect : Effect ν} {h : SpanRef} (given : effect.given? w = some h) :
    (effect.apply w).Addresses h ∧ w.origin? h = none := by
  cases effect with
  | plant label trace rootName =>
    cases given
    refine ⟨⟨_, origin?_eq_some.2 ⟨SpanTree.root label trace rootName, ?_, rfl⟩, rfl⟩, ?_⟩
    · exact List.getElem?_concat_length
    · rw [origin?, span?, tree?, List.getElem?_eq_none (Nat.le_refl _)]
      rfl
  | branch parent name =>
    have made : w.child parent = .ok h := by
      cases child : w.child parent <;> simp_all [Effect.given?, Except.toOption]
    obtain ⟨t, tree, opened, rfl⟩ := child_eq_ok.1 made
    let o : Span.Origin := ⟨t.id t.spans.length, some parent.id, t.trace, some parent.index⟩
    refine ⟨⟨o, origin?_eq_some.2 ⟨t.startChild parent name, ?_, ?_⟩, rfl⟩, ?_⟩
    · simp [Effect.apply, tree]
    · rw [SpanTree.spans_startChild opened, List.getElem?_concat_length]
      rfl
    · simp [origin?, span?, tree?, tree]
  | touch _ _ | finish _ | look | send _ | draw | report _ | record _ | app _ => cases given

theorem step {state state' : World ν × List SpanRef} (sound : Sound state.1 state.2)
    (step : Step state state') : Sound state'.1 state'.2 := by
  cases step with
  | tick => exact ⟨sound.wellFormed, sound.addressed, sound.distinct⟩
  | @act w handles effect through =>
    have old : ∀ h ∈ handles, (effect.apply w).Addresses h := fun h known =>
      have ⟨o, origin, same⟩ := sound.addressed h known
      ⟨o, origin?_apply effect origin, same⟩
    refine ⟨wellFormed_apply sound through, ?_, ?_⟩
    · intro h member
      rcases List.mem_append.1 member with given | known
      · exact (given_new (Option.mem_toList.1 given)).1
      · exact old h known
    · cases given : effect.given? w with
      | none => exact sound.distinct
      | some h =>
        refine List.nodup_cons.2 ⟨fun member => ?_, sound.distinct⟩
        obtain ⟨h', known, same⟩ := List.mem_map.1 member
        obtain ⟨o, origin, -⟩ := sound.addressed h' known
        have fresh : w.origin? h' = none := by
          rw [← (given_new given).2, origin?, origin?, span?, span?, tree?, tree?]
          rw [(Prod.mk.inj same).1, (Prod.mk.inj same).2]
        rw [fresh] at origin
        cases origin

/-- Every history keeps all of it. -/
theorem steps {state state' : World ν × List SpanRef} (sound : Sound state.1 state.2)
    (history : ReflTransGen Step state state') : Sound state'.1 state'.2 := by
  induction history with
  | refl => exact sound
  | tail _ last ih => exact ih.step last

end Sound

end Ingress
