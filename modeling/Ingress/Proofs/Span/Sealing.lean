import Ingress.Proofs.Downstream.Refusal
import Ingress.Proofs.Span.History

/-!
# Sealed trees

When the root of a tree is finished, so is every span of it, and the tree stays as it is for ever:
it gets no more spans, changes are ignored, and no call is made under any of its spans.
-/

namespace Ingress

open Activity Relation

namespace SpanTree

variable {t : SpanTree}

theorem WellFormed.finished_of_under (wf : t.WellFormed) {top i : Nat} (under : t.Under top i)
    (finished : t.isFinished top) : t.isFinished i := wf.nested.finished_of_under under finished

theorem WellFormed.top_lt (wf : t.WellFormed) {top i : Nat} (under : t.Under top i)
    (bound : i < t.spans.length) : top < t.spans.length := by
  induction under with
  | self => exact bound
  | child _ present parent ih =>
    have before := (wf.fits_of present).parent_lt _ parent
    exact ih (Nat.lt_trans before bound)

/-- What lies over an open span is open. -/
theorem WellFormed.isOpen_of_under (wf : t.WellFormed) {top i : Nat} (under : t.Under top i)
    (opened : t.isOpen i) : t.isOpen top := by
  obtain ⟨s, present, running⟩ := (Option.any_eq_true _ _).1 opened
  have bound := wf.top_lt under (List.getElem?_eq_some_iff.1 present).1
  have there := List.getElem?_eq_getElem bound
  by_contra shut
  have finished : t.isFinished top := by simpa [isOpen, isFinished, there] using shut
  have below := wf.finished_of_under under finished
  simp only [isFinished, present, Option.any_some] at below
  simp [below] at running

/-- The parent of a span carries the name that the span knows it by. -/
theorem WellFormed.parent_named (wf : t.WellFormed) {i p : Nat} {s : Span}
    (present : t.spans[i]? = some s) (parent : s.parent = some p) :
    p < i ∧ ∃ above, t.spans[p]? = some above ∧ s.parentId = some above.id := by
  have fits := wf.fits_of present
  have before : p < i := fits.parent_lt p parent
  have bound := (List.getElem?_eq_some_iff.1 present).1
  have there : t.spans[p]? = some t.spans[p] := List.getElem?_eq_getElem (by omega)
  have names : s.parentId = s.parent.map t.id := fits.parentId_eq
  refine ⟨before, _, there, ?_⟩
  rw [names, parent]
  exact congrArg some (wf.fits_of there).id_eq.symm

section Closed

variable (nested : t.Nested) (closed : t.isClosed)
include nested closed

/-- When the root is finished, so is every span. -/
theorem isFinished_of_closed {i : Nat} {s : Span} (present : t.spans[i]? = some s) :
    s.isFinished := by
  have finished := nested.finished_of_under (nested.under_root present) closed
  simpa [isFinished, present] using finished

theorem isOpen_of_closed (i : Nat) : t.isOpen i = false := by
  unfold isOpen
  cases present : t.spans[i]? with
  | none => rfl
  | some s => simp [isFinished_of_closed nested closed present]

theorem startChild_of_closed (parent : SpanRef) (name : String) : t.startChild parent name = t := by
  rw [startChild, child?, isOpen_of_closed nested closed]
  rfl

theorem modifyOpen_of_closed (i : Nat) (f : Span → Span) : t.modifyOpen i f = t := by
  have same : (t.modifyOpen i f).spans = t.spans := by
    refine List.ext_getElem? fun j => (List.getElem?_modify _ _ _ _).trans ?_
    cases present : t.spans[j]? with
    | none => rfl
    | some s => by_cases here : i = j <;> simp [here, isFinished_of_closed nested closed present]
  exact congrArg (SpanTree.mk t.name t.trace) same

theorem finish_of_closed (i instant : Nat) : t.finish i instant = t := by
  have same : (t.finish i instant).spans = t.spans := by
    refine List.ext_getElem? fun j => ?_
    rw [getElem?_finish]
    cases present : t.spans[j]? with
    | none => rfl
    | some s => simp [isFinished_of_closed nested closed present]
  by_cases stale : t.isFinished i
  · rw [finish, if_pos stale]
  · rw [finish, if_neg stale] at same ⊢
    exact congrArg (SpanTree.mk t.name t.trace) same

theorem closing_of_closed (i : Nat) : t.closing i = [] := by
  have none_left (j : Nat) (member : j ∈ List.range t.spans.length) : t.isFinished j := by
    have present := List.getElem?_eq_getElem (List.mem_range.1 member)
    simp [isFinished, present, isFinished_of_closed nested closed present]
  unfold closing
  split
  · rfl
  · rw [List.reverse_eq_nil_iff, List.filter_eq_nil_iff]
    intro j member
    simp [none_left j member]

end Closed

end SpanTree

namespace World

variable {w : World ν} {k : Nat} {t : SpanTree}

section Closed

variable (tree : w.trees[k]? = some t) (nested : t.Nested) (closed : t.isClosed)
include tree nested closed

/-- Nothing that happens changes a sealed tree. -/
theorem getElem?_trees_apply_of_closed (e : Effect ν) : (e.apply w).trees[k]? = some t := by
  have kept (i : Nat) (f : SpanTree → SpanTree) (same : f t = t) :
      (w.trees.modify i f)[k]? = some t := by
    rw [List.getElem?_modify, tree]
    by_cases here : i = k <;> simp [here, same]
  cases e with
  | plant label trace rootName =>
    exact (List.getElem?_append_left (List.getElem?_eq_some_iff.1 tree).1).trans tree
  | branch parent name => exact kept _ _ (SpanTree.startChild_of_closed nested closed parent name)
  | touch span c => exact kept _ _ (SpanTree.modifyOpen_of_closed nested closed span.index _)
  | finish span => exact kept _ _ (SpanTree.finish_of_closed nested closed span.index w.now)
  | look | send _ | draw | report _ | record _ | app _ => exact tree

/-- Through a handle of a sealed tree nothing happens at all. -/
theorem apply_of_closed {e : Effect ν} {h : SpanRef} (here : h.tree = k)
    (through : e.through = [h]) : e.apply w = w := by
  have kept (f : SpanTree → SpanTree) (same : f t = t) : w.trees.modify h.tree f = w.trees := by
    refine List.ext_getElem? fun i => ?_
    rw [List.getElem?_modify]
    by_cases at_ : h.tree = i
    · rw [← at_, here, tree]
      simp [same]
    · simp [at_]
  cases e with
  | branch parent name =>
    cases through
    rw [Effect.apply, kept _ (SpanTree.startChild_of_closed nested closed _ name)]
  | touch span c =>
    cases through
    rw [Effect.apply, kept _ (SpanTree.modifyOpen_of_closed nested closed _ _)]
  | finish span =>
    cases through
    have quiet : w.closing h = [] := by
      simp [closing, tree?, here, tree, SpanTree.closing_of_closed nested closed]
    rw [Effect.apply, kept _ (SpanTree.finish_of_closed nested closed _ w.now), quiet]
    rfl
  | plant _ _ _ | look | send _ | draw | report _ | record _ | app _ => cases through

/-- No span of a sealed tree gets a child. -/
theorem child_of_closed {h : SpanRef} (here : h.tree = k) :
    w.child h = .error (.parentFinished h.id) := by
  simp [child, tree?, here, tree, SpanTree.child?, SpanTree.isOpen_of_closed nested closed]

end Closed

theorem getElem?_trees_steps_of_closed (wf : t.WellFormed) (closed : t.isClosed)
    {state state' : World ν × List SpanRef}
    (later : ReflTransGen Step state state') (tree : state.1.trees[k]? = some t) :
    state'.1.trees[k]? = some t := by
  induction later with
  | refl => exact tree
  | tail _ last ih =>
    cases last with
    | act => exact getElem?_trees_apply_of_closed ih wf.nested closed _
    | tick => exact ih

end World

/-- Through the handle nothing can be started, changed, finished or called any more, whatever others
do meanwhile. -/
structure World.Refuses (others : World ν → World ν → Prop) (w : World ν) (h : SpanRef) : Prop where
  idle : ∀ e : Effect ν, e.through = [h] → e.apply w = w
  startChild : ∀ (name : String) (ds : List (Deed ν)) (e : Ending ν (Except TraceError SpanRef)),
    Course others (Activity.startChild h name) w ds e →
      ∃ last, e = .done (.error (.parentFinished h.id)) last
  /-- The same through any context of the request. -/
  startChildOf : ∀ (c : Context) (name : String) (ds : List (Deed ν))
    (e : Ending ν (Except TraceError SpanRef)), c.root.tree = h.tree →
    Course others (c.startChild h name) w ds e →
      ∃ last, e = .done (.error (.parentFinished h.id)) last
  call : ∀ (policy : Retry.Policy) (request : Downstream.Request) (ds : List (Deed ν))
    (e : Ending ν (Except Downstream.CallError Downstream.Response)),
    Course others (Downstream.Call.run policy h request) w ds e →
      (∀ d ∈ ds, ∀ r, d.effect ≠ .send r) ∧
        ∃ last, e = .done (.error (.trace (.parentFinished h.id))) last
  /-- The same through any client of the request. -/
  send : ∀ (client : Downstream.Client) (request : Downstream.Request) (ds : List (Deed ν))
    (e : Ending ν (Except Downstream.CallError Downstream.Response)), client.parent = h →
    Course others (client.send request) w ds e →
      (∀ d ∈ ds, ∀ r, d.effect ≠ .send r) ∧
        ∃ last, e = .done (.error (.trace (.parentFinished h.id))) last

/-- Every handle of a sealed tree refuses everything. -/
theorem World.refuses_of_closed {others : World ν → World ν → Prop} {w : World ν} {k : Nat}
    {t : SpanTree} (tree : w.trees[k]? = some t) (wf : t.WellFormed) (closed : t.isClosed)
    (stays : ∀ w w', others w w' → w.trees[k]? = some t → w'.trees[k]? = some t) {h : SpanRef}
    (here : h.tree = k) : w.Refuses others h := by
  have refused := child_of_closed tree wf.nested closed here
  have started (name : String) (ds : List (Deed ν)) (e : Ending ν (Except TraceError SpanRef))
      (course : Course others (Activity.startChild h name) w ds e) :
      ∃ last, e = .done (.error (.parentFinished h.id)) last := by
    obtain ⟨later, rest, rfl, -, course⟩ := course_act_iff.1 course
    dsimp only [Activity.bind] at course
    rw [refused] at course
    exact ⟨later, (course_done_iff.1 course).2⟩
  refine ⟨fun e through => apply_of_closed tree wf.nested closed here through, started,
    fun c name ds e same course => ?_, fun policy request ds e course => ?_, ?_⟩
  · rw [Context.startChild, if_pos same.symm] at course
    exact started name ds e course
  · obtain ⟨rfl, last, rfl⟩ := Downstream.course_run_refused refused course
    refine ⟨fun d member r sent => ?_, last, rfl⟩
    rw [List.mem_singleton.1 member] at sent
    cases sent
  · rintro client request ds e rfl course
    exact Downstream.course_send_refused (P := fun w => w.trees[k]? = some t)
      (fun w tree => child_of_closed tree wf.nested closed here) (fun _ _ tree => tree)
      (fun _ _ tree => tree) stays tree course

/-- Along every history of handles that are given out, used and copied in any order:

* a tree has one span without a parent, the first one; every other one comes after its parent and
  carries its name; all carry the trace of the tree; and every handle addresses the span that it was
  given out for, which no other handle does;
* what lies under a finished span is finished, so that all spans above an open one are open;
* once the root of a tree is finished, the tree stays as it is, and every handle of it refuses to do
  anything. -/
theorem sound_and_sealed {network : Downstream.Network} {draws : List Nat} {app : ν} {w : World ν}
    {handles : List SpanRef}
    (history : ReflTransGen Step (World.start network draws app, []) (w, handles)) :
    (∀ t ∈ w.trees, t.spans ≠ [] ∧ ∀ i s, t.spans[i]? = some s →
      s.id = t.id i ∧ s.trace = t.trace ∧ (s.parent = none ↔ i = 0) ∧
      (s.parentId = none ↔ i = 0) ∧
      ∀ p, s.parent = some p →
        p < i ∧ ∃ parent, t.spans[p]? = some parent ∧ s.parentId = some parent.id) ∧
    (∀ h ∈ handles, ∃ s, w.span? h = some s ∧ s.id = h.id) ∧
    (handles.map fun h => (h.tree, h.index)).Nodup ∧
    (∀ t ∈ w.trees, ∀ top i, t.Under top i →
      (t.isFinished top → t.isFinished i) ∧ (t.isOpen i → t.isOpen top)) ∧
    ∀ k t, w.trees[k]? = some t → t.isClosed →
      ∀ w' handles', ReflTransGen Step (w, handles) (w', handles') →
        w'.trees[k]? = some t ∧
        ∀ others, (∀ w w', others w w' → w.trees[k]? = some t → w'.trees[k]? = some t) →
          ∀ h : SpanRef, h.tree = k → w'.Refuses others h := by
  have sound : Sound w handles := (Sound.start network draws app).steps history
  refine ⟨fun t member => ?_, fun h given => ?_, sound.distinct, fun t member top i under => ?_,
    fun k t tree closed w' handles' later => ?_⟩
  · have wf := sound.wellFormed t member
    refine ⟨List.ne_nil_of_length_pos wf.rooted, fun i s present => ?_⟩
    have fits := wf.fits_of present
    refine ⟨fits.id_eq, fits.trace_eq, fits.parent_eq_none, ?_,
      fun p parent => wf.parent_named present parent⟩
    have names : s.parentId = s.parent.map t.id := fits.parentId_eq
    rw [names, Option.map_eq_none_iff]
    exact fits.parent_eq_none
  · obtain ⟨o, origin, same⟩ := sound.addressed h given
    obtain ⟨s, present, rfl⟩ := Option.map_eq_some_iff.1 origin
    exact ⟨s, present, same⟩
  · have wf := sound.wellFormed t member
    exact ⟨wf.finished_of_under under, wf.isOpen_of_under under⟩
  · have wf := sound.wellFormed t (List.mem_of_getElem? tree)
    have still : w'.trees[k]? = some t := World.getElem?_trees_steps_of_closed wf closed later tree
    exact ⟨still, fun others stays h here => World.refuses_of_closed still wf closed stays here⟩

/-- When the root is finished before its child, the child refuses everything too. -/
theorem sound_and_sealed_child :
    let root : SpanRef := ⟨0, 0, ⟨"t", 0⟩⟩
    let child : SpanRef := ⟨0, 1, ⟨"t", 1⟩⟩
    let planted : World Unit := (Effect.plant "t" "trace" "request").apply (.start .alone [] ())
    let grown := (Effect.branch root "child").apply planted
    let w := (Effect.finish root).apply grown
    w.span? child ≠ none ∧ w.Refuses Eq child := by
  intro root child planted grown w
  have first : Step (World.start .alone [] (), []) (planted, [root]) := .act (List.forall_mem_nil _)
  have second : Step (planted, [root]) (grown, [child, root]) :=
    .act (List.forall_mem_singleton.2 (List.mem_singleton_self root))
  have third : Step (grown, [child, root]) (w, [child, root]) :=
    .act (List.forall_mem_singleton.2 (List.mem_cons_of_mem child (List.mem_singleton_self root)))
  obtain ⟨-, addressed, -, -, sealed⟩ :=
    sound_and_sealed (((ReflTransGen.single first).tail second).tail third)
  constructor
  · obtain ⟨s, present, -⟩ := addressed child List.mem_cons_self
    simp [present]
  · exact (sealed 0 _ rfl rfl _ _ .refl).2 Eq (fun _ _ same tree => same ▸ tree) child rfl

end Ingress
