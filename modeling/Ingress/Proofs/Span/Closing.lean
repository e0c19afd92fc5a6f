import Ingress.Proofs.Span.Elsewhere
import Ingress.Proofs.Span.Sealing
import Ingress.Proofs.Span.Trace

/-!
# The end of a tree

A root is open until it is finished itself, since it lies under nothing else. When it is finished,
every span of its tree is finished with it, and stays so.
-/

namespace Ingress

open Activity Relation

namespace SpanTree

variable {t : SpanTree}

/-- A span without a parent lies under itself alone. -/
theorem Under.eq_of_parent {top i : Nat} {s : Span} (under : t.Under top i)
    (present : t.spans[i]? = some s) (parent : s.parent = none) : top = i := by
  cases under with
  | self => rfl
  | child _ present' above =>
    obtain rfl := Option.some.inj (present.symm.trans present')
    rw [parent] at above
    cases above

theorem Nested.isClosed_finish (nested : t.Nested) (instant : Nat) :
    (t.finish 0 instant).isClosed := by
  obtain ⟨s, present⟩ : ∃ s, t.spans[0]? = some s := ⟨_, List.getElem?_eq_getElem nested.rooted⟩
  have itself : t.inside 0 0 := (marks_iff present).2 (.inl rfl)
  rw [isClosed, isFinished, getElem?_finish, present]
  by_cases ended : s.isFinished
  · simp [ended]
  · have running : t.isFinished 0 = false := by simpa [isFinished, present] using ended
    simp [running, itself, ended]

end SpanTree

/-- The effect does not finish the span itself. -/
def Effect.Leaves (span : SpanRef) (e : Effect ν) : Prop :=
  ∀ s, e = .finish s → ¬ (s.tree = span.tree ∧ s.index = span.index)

namespace World

variable {w w' : World ν} {k : Nat} {t : SpanTree} {root : SpanRef}

/-- A closed tree is the same ever after. -/
theorem getElem?_trees_later_of_closed (tree : w.trees[k]? = some t) (nested : t.Nested)
    (closed : t.isClosed) (moved : Later w w') : w'.trees[k]? = some t := by
  induction moved with
  | refl => exact tree
  | tail _ last ih =>
    cases last with
    | act effect => exact getElem?_trees_apply_of_closed ih nested closed effect
    | tick => exact ih

/-- When the root has been finished, so have all spans, now and ever after. -/
theorem finished_of_finish (has : w.Has root.tree SpanTree.Nested) (top : root.index = 0)
    (moved : Later ((Effect.finish root).apply w) w') :
    ∃ t, w'.trees[root.tree]? = some t ∧ t.spans ≠ [] ∧ ∀ s ∈ t.spans, s.isFinished := by
  obtain ⟨t, tree, nested⟩ := has
  have nested' := nested.finish 0 w.now
  have closed := nested.isClosed_finish w.now
  have there : ((Effect.finish root).apply w).trees[root.tree]? = some (t.finish 0 w.now) := by
    simp [Effect.apply, tree, top]
  refine ⟨t.finish 0 w.now, getElem?_trees_later_of_closed there nested' closed moved,
    List.ne_nil_of_length_pos nested'.rooted, fun s member => ?_⟩
  obtain ⟨i, present⟩ := List.mem_iff_getElem?.1 member
  exact SpanTree.isFinished_of_closed nested' closed present

/-- An open span that lies under no other one. -/
def IsOpenRoot (root : SpanRef) (w : World ν) : Prop :=
  ∃ s, w.span? root = some s ∧ s.parent = none ∧ s.isFinished = false

theorem isOpenRoot_plant (label trace rootName : String) (w : World ν) (id : Span.Id) :
    ((Effect.plant label trace rootName).apply w).IsOpenRoot ⟨w.trees.length, 0, id⟩ := by
  refine ⟨Span.start ⟨label, 0⟩ trace rootName none, ?_, rfl, rfl⟩
  exact span?_eq_some.2 ⟨_, List.getElem?_concat_length, rfl⟩

/-- What does not finish the root leaves it open. -/
theorem IsOpenRoot.apply (running : w.IsOpenRoot root) {e : Effect ν} (leaves : e.Leaves root) :
    (e.apply w).IsOpenRoot root := by
  obtain ⟨s, present, parent, open_⟩ := running
  by_cases spares : e.SparesIn w root
  · exact ⟨s, span?_apply_of_sparesIn spares present, parent, open_⟩
  -- What is left are changes of the root, and what finishes it from above, of which there is none.
  cases e with
  | touch other c =>
    have here : other.tree = root.tree ∧ other.index = root.index := not_not.1 spares
    have same (w : World ν) : w.span? root = w.span? other := by
      rw [span?, span?, tree?, tree?, here.1, here.2]
    refine ⟨Span.change c s, ?_, ?_, ?_⟩
    · rw [same] at present ⊢
      exact span?_touch present open_ c
    · rw [Span.parent_change, parent]
    · rw [Span.isFinished_change, open_]
  | finish other =>
    refine absurd ?_ spares
    intro here t tree under
    have apart : other.index ≠ root.index := fun same => leaves other rfl ⟨here, same⟩
    obtain ⟨t', tree', there⟩ := span?_eq_some.1 present
    obtain rfl : t' = t := Option.some.inj (tree'.symm.trans tree)
    exact apart (under.eq_of_parent there parent)
  | plant _ _ _ | branch _ _ | look | send _ | draw | report _ | record _ | app _ =>
    exact absurd trivial spares

theorem IsOpenRoot.elsewhere (running : w.IsOpenRoot root) (moved : Elsewhere root w w') :
    w'.IsOpenRoot root := by
  obtain ⟨s, present, known⟩ := running
  exact ⟨s, span?_of_elsewhere moved present, known⟩

end World

namespace Activity

variable {root : SpanRef} {w : World ν} {ds : List (Deed ν)}

/-- A course that does not finish the root leaves it open. -/
theorem isOpenRoot_of_course {a : Activity ν α} {e : Ending ν α}
    (course : Course (Elsewhere root) a w ds e) (leaves : ∀ d ∈ ds, d.effect.Leaves root)
    (running : w.IsOpenRoot root) : e.world.IsOpenRoot root := by
  induction course with
  | done | panic | forever => exact running
  | act moved _ ih =>
    obtain ⟨first, others⟩ := List.forall_mem_cons.1 leaves
    exact ih others ((running.apply first).elsewhere moved)
  | wait moved moved' _ ih =>
    have before : World.IsOpenRoot root _ := running.elsewhere moved
    exact ih leaves (World.IsOpenRoot.elsewhere (w := World.advance _ _) before moved')

end Activity

end Ingress
