import Ingress.Context
import Ingress.Proofs.Span.Elsewhere
import Ingress.Proofs.Span.Trace

/-!
# What operations leave alone

Trees only grow, and a finished span is the same ever after, whoever does whatever. A change reaches
one field of one open span, and a child is one more span at the end of its tree.
-/

namespace Ingress

open Activity Relation

namespace SpanTree

open Ingress.Span

/-- A tree is what has become of another one. -/
structure Extends (t t' : SpanTree) : Prop where
  name_eq : t'.name = t.name
  trace_eq : t'.trace = t.trace
  /-- No span is removed, moved or put under another parent. -/
  grows : t.spans.map origin <+: t'.spans.map origin
  /-- Finished spans stay as they are. -/
  frozen : ∀ (i : Nat) (s : Span), t.spans[i]? = some s → s.isFinished → t'.spans[i]? = some s

namespace Extends

variable {t t' t'' : SpanTree}

theorem refl (t : SpanTree) : t.Extends t where
  name_eq := rfl
  trace_eq := rfl
  grows := List.prefix_rfl
  frozen _ _ present _ := present

theorem trans (first : t.Extends t') (second : t'.Extends t'') : t.Extends t'' where
  name_eq := second.name_eq.trans first.name_eq
  trace_eq := second.trace_eq.trans first.trace_eq
  grows := first.grows.trans second.grows
  frozen i s present finished := second.frozen i s (first.frozen i s present finished) finished

theorem of_remade {f : Nat → Span → Span} (remade : t.Remade t' f)
    (kept : ∀ i s, s.isFinished → f i s = s) : t.Extends t' where
  name_eq := remade.name_eq
  trace_eq := remade.trace_eq
  grows := remade.origins_eq ▸ List.prefix_rfl
  frozen i s present finished := by
    rw [remade.spans_eq, present, Option.map_some, kept i s finished]

theorem startChild (t : SpanTree) (parent : SpanRef) (name : String) :
    t.Extends (t.startChild parent name) := by
  by_cases opened : t.isOpen parent.index
  · refine ⟨name_startChild parent name, trace_startChild parent name, ?_,
      fun i s present _ => ?_⟩
    · rw [spans_startChild opened, List.map_append]
      exact List.prefix_append _ _
    · rw [spans_startChild opened,
        List.getElem?_append_left (List.getElem?_eq_some_iff.1 present).1, present]
  · rw [startChild_of_not_isOpen opened]
    exact refl t

theorem modifyOpen (t : SpanTree) (place : Nat) (c : Change) :
    t.Extends (t.modifyOpen place (change c)) :=
  of_remade (remade_modifyOpen place c t) fun i s finished => by simp [finished]

theorem finish (t : SpanTree) (top instant : Nat) : t.Extends (t.finish top instant) :=
  of_remade (remade_finish top instant t) fun i s finished => by simp [finished]

end Extends

theorem lasting_extends (t : SpanTree) : Lasting t.Extends where
  startChild t' ext parent name := ext.trans (.startChild t' parent name)
  modifyOpen t' ext place c := ext.trans (.modifyOpen t' place c)
  finish t' ext top instant := ext.trans (.finish t' top instant)

end SpanTree

namespace World

variable {w w' : World ν}

/-- Every tree of a world is in another one at its place, as it is or as it has become. -/
def Keeps (w w' : World ν) : Prop :=
  ∀ (k : Nat) (t : SpanTree), w.trees[k]? = some t → ∃ t', w'.trees[k]? = some t' ∧ t.Extends t'

theorem keeps_of_later (moved : Later w w') : w.Keeps w' := by
  intro k t tree
  have begins : w.Has k t.Extends := ⟨t, tree, .refl t⟩
  exact begins.later (SpanTree.lasting_extends t) moved

/-- A span is there and is open. -/
def IsOpen (w : World ν) (h : SpanRef) : Prop := ∃ s, w.span? h = some s ∧ s.isFinished = false

theorem isOpen_iff {h : SpanRef} :
    w.IsOpen h ↔ ∃ t, w.trees[h.tree]? = some t ∧ t.isOpen h.index := by
  simp only [IsOpen, span?_eq_some, SpanTree.isOpen, Option.any_eq_true, Bool.not_eq_true']
  constructor
  · rintro ⟨s, ⟨t, tree, present⟩, running⟩
    exact ⟨t, tree, s, present, running⟩
  · rintro ⟨t, tree, s, present, running⟩
    exact ⟨s, ⟨t, tree, present⟩, running⟩

end World

/-- The states that a course passes through, from its beginning to its end. -/
def Activity.states (w : World ν) (ds : List (Deed ν)) (e : Ending ν α) : List (World ν) :=
  w :: ds.flatMap (fun d => [d.met, d.effect.apply d.met]) ++ [e.world]

/-- Of the states of a course each comes later than those before it. -/
theorem Activity.pairwise_later {others : World ν → World ν → Prop} {a : Activity ν α}
    {w : World ν} {ds : List (Deed ν)} {e : Ending ν α}
    (moments : ∀ w w', others w w' → Later w w') (course : Course others a w ds e) :
    (states w ds e).Pairwise Later := by
  induction course with
  | done | panic | forever =>
    exact List.pairwise_pair.2 .refl
  | @act effect _ w later _ _ moved _ ih =>
    have meanwhile := moments _ _ moved
    obtain ⟨after, rest⟩ := List.pairwise_cons.1 ih
    have acted : Later w (effect.apply w) := .single (.act effect)
    have next : ∀ x ∈ _, Later (effect.apply w) x := fun x member =>
      meanwhile.trans (after x member)
    have whole : ∀ x ∈ effect.apply w :: _, Later w x :=
      List.forall_mem_cons.2 ⟨acted, fun x member => acted.trans (next x member)⟩
    exact .cons (List.forall_mem_cons.2 ⟨.refl, whole⟩) (.cons whole (.cons next rest))
  | @wait instant _ w before later _ _ moved moved' _ ih =>
    have waited : Later before (before.advance instant) := .single (.tick instant)
    have meanwhile : Later w later :=
      (moments _ _ moved).trans (waited.trans (moments _ _ moved'))
    obtain ⟨after, rest⟩ := List.pairwise_cons.1 ih
    exact .cons (fun x member => meanwhile.trans (after x member)) rest

/-- What a change does to a span: it replaces the value of one attribute, the status or the name, or
adds an event after all others. -/
def Span.Changes : Span.Change → Span → Span → Prop
  | .attribute key value, s, s' => ∃ attributes, s' = { s with attributes } ∧
      ∀ k, attributes.get? k = if key = k then some value else s.attributes.get? k
  | .status status, s, s' => s' = { s with status }
  | .name name, s, s' => s' = { s with name }
  | .event name attributes, s, s' =>
      s' = { s with events := s.events ++ [⟨name, Dictionary.ofPairs attributes⟩] }

theorem Span.changes_change (c : Span.Change) (s : Span) : Span.Changes c s (Span.change c s) := by
  match c with
  | .attribute key value => exact ⟨_, rfl, fun k => Dictionary.get?_insert key k value s.attributes⟩
  | .status _ | .name _ | .event _ _ => rfl

namespace World

variable {w : World ν} {h parent : SpanRef} {t : SpanTree}

/-- A change of an open span changes nothing else. -/
theorem apply_touch_of_open {s : Span} (tree : w.trees[h.tree]? = some t)
    (present : t.spans[h.index]? = some s) (running : s.isFinished = false) (c : Span.Change) :
    (Effect.touch h c).apply w = { w with
      trees := w.trees.set h.tree
        { t with spans := t.spans.set h.index (Span.change c s) } } := by
  rw [Effect.apply, trees_modify_of_present tree, SpanTree.modifyOpen, List.modify_eq_set_getElem?,
    present]
  simp [running]

theorem apply_touch_of_not_open (shut : ¬ w.IsOpen h) (c : Span.Change) :
    (Effect.touch h c).apply w = w := by
  have same : ∀ t, w.trees[h.tree]? = some t → t.modifyOpen h.index (Span.change c) = t := by
    intro t tree
    have kept : (t.spans.modify h.index fun s => if s.isFinished then s else Span.change c s) =
        t.spans := by
      rw [List.modify_eq_set_getElem?]
      cases present : t.spans[h.index]? with
      | none => rfl
      | some s =>
        have finished : s.isFinished := by
          by_contra running
          exact shut ⟨s, span?_eq_some.2 ⟨t, tree, present⟩, by simpa using running⟩
        obtain ⟨bound, rfl⟩ := List.getElem?_eq_some_iff.1 present
        simp [finished]
    exact congrArg (SpanTree.mk t.name t.trace) kept
  rw [Effect.apply, trees_modify_of_same same]

theorem apply_branch_of_open (tree : w.trees[parent.tree]? = some t)
    (opened : t.isOpen parent.index) (name : String) :
    (Effect.branch parent name).apply w = { w with
      trees := w.trees.set parent.tree { t with
        spans := t.spans ++
          [Span.start (t.id t.spans.length) t.trace name (some (parent.index, parent.id))] } } := by
  rw [Effect.apply, trees_modify_of_present tree, SpanTree.startChild, SpanTree.child?,
    if_pos opened]

theorem apply_branch_of_not_open (shut : ¬ w.IsOpen parent) (name : String) :
    (Effect.branch parent name).apply w = w := by
  have same : ∀ t, w.trees[parent.tree]? = some t → t.startChild parent name = t := fun t tree =>
    SpanTree.startChild_of_not_isOpen (fun opened => shut (isOpen_iff.2 ⟨t, tree, opened⟩)) name
  rw [Effect.apply, trees_modify_of_same same]

theorem child_of_not_open (shut : ¬ w.IsOpen parent) :
    w.child parent = .error (.parentFinished parent.id) := by
  cases made : w.child parent with
  | ok child =>
    obtain ⟨t, tree, opened, -⟩ := child_eq_ok.1 made
    exact absurd (isOpen_iff.2 ⟨t, tree, opened⟩) shut
  | error e =>
    unfold World.child at made
    split at made <;> cases made
    rfl

end World

/-- Whatever is done in a world, trees only grow, no span is moved, and a finished span is the same
ever after; so it is from each state of an activity, such as a call or the handling of a request, to
each later one, with others beside it. A change of an open span replaces one value of one field of
it or adds an event at the end, and changes nothing else; no other span can be changed. An open span
gets one more open and empty child after all spans there are; a child that is refused leaves all as
it was. -/
theorem spans_keep :
    (∀ w w' : World ν, Later w w' → w.Keeps w') ∧
    (∀ (others : World ν → World ν → Prop), (∀ w w', others w w' → Later w w') →
      ∀ (α : Type) (a : Activity ν α) w ds e, Course others a w ds e →
        (states w ds e).Pairwise Later) ∧
    (∀ (w : World ν) (h : SpanRef) (c : Span.Change),
      (∀ t s, w.trees[h.tree]? = some t → t.spans[h.index]? = some s → ¬ s.isFinished →
        ∃ s', Span.Changes c s s' ∧ (Effect.touch h c).apply w = { w with
          trees := w.trees.set h.tree { t with spans := t.spans.set h.index s' } }) ∧
      (¬ w.IsOpen h → (Effect.touch h c).apply w = w)) ∧
    ∀ (w : World ν) (parent : SpanRef) (name : String),
      (∀ t, w.trees[parent.tree]? = some t → t.isOpen parent.index →
        ∃ child : Span, child.isFinished = false ∧ child.name = name ∧
          child.parent = some parent.index ∧ child.attributes = [] ∧ child.status = .unset ∧
          child.events = [] ∧
          (Activity.startChild parent name).run w =
            .done (.ok ⟨parent.tree, t.spans.length, child.id⟩) { w with
              trees := w.trees.set parent.tree { t with spans := t.spans ++ [child] } }) ∧
      (¬ w.IsOpen parent →
        (Activity.startChild parent name).run w = .done (.error (.parentFinished parent.id)) w) ∧
      ∀ c : Context,
        (parent.tree = c.root.tree →
          (c.startChild parent name).run w = (Activity.startChild parent name).run w) ∧
        (parent.tree ≠ c.root.tree →
          (c.startChild parent name).run w = .done (.error (.foreignSpan parent.id c.traceId)) w) := by
  refine ⟨fun w w' => World.keeps_of_later, fun others moments α a w ds e => ?_,
    fun w h c => ⟨?_, ?_⟩, fun w parent name => ⟨?_, ?_, fun c => ⟨?_, ?_⟩⟩⟩
  · exact pairwise_later moments
  · intro t s tree present running
    have open_ : s.isFinished = false := by simpa using running
    exact ⟨_, Span.changes_change c s, World.apply_touch_of_open tree present open_ c⟩
  · exact fun shut => World.apply_touch_of_not_open shut c
  · intro t tree opened
    have made := World.child_eq_ok.2 ⟨t, tree, opened, rfl⟩
    refine ⟨Span.start (t.id t.spans.length) t.trace name (some (parent.index, parent.id)), rfl,
      rfl, rfl, rfl, rfl, rfl, ?_⟩
    rw [← World.apply_branch_of_open tree opened name]
    exact congrArg (Ending.done · _) made
  · intro shut
    have still := World.apply_branch_of_not_open shut name
    have refused := World.child_of_not_open shut
    exact congrArg₂ Ending.done refused still
  · intro native
    rw [Context.startChild, if_pos native]
  · intro foreign
    rw [Context.startChild, if_neg foreign]
    rfl

/-- A span that has been finished keeps its name and gets no child. -/
theorem spans_keep_finished :
    let root : SpanRef := ⟨0, 0, ⟨"t", 0⟩⟩
    let planted : World Unit := (Effect.plant "t" "trace" "request").apply (.start .alone [] ())
    let w := (Effect.finish root).apply planted
    w.Keeps ((Effect.touch root (.name "late")).apply w) ∧
      (Activity.startChild root "child").run w =
        .done (.error (.parentFinished ⟨"t", 0⟩)) w := by
  intro root planted w
  obtain ⟨kept, ordered, -, refused⟩ := spans_keep (ν := Unit)
  have alone (w w' : World Unit) (same : w = w') : Later w w' := same ▸ .refl
  have course : Course Eq (Activity.rename root "late") w [⟨w, .touch root (.name "late")⟩]
      (.done () ((Effect.touch root (.name "late")).apply w)) := .act rfl .done
  obtain ⟨later, -⟩ := List.pairwise_cons.1 (ordered Eq alone Unit _ w _ _ course)
  refine ⟨kept _ _ (later _ ?_), (refused w root "child").2.1 ?_⟩
  · exact List.mem_append_right _ (List.mem_singleton_self _)
  · rintro ⟨s, present, running⟩
    cases present
    cases running

end Ingress
