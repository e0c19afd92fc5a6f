import Ingress.Proofs.Downstream.Effects
import Ingress.Proofs.Span.Closing
import Ingress.Proofs.Span.Subtree
import Mathlib.Data.List.Basic

/-!
# Reports of ends

Along every run the ends of spans that were reported are those of the finished spans, each reported
once, as it was when it was finished and as it still is.
-/

namespace Ingress

open Relation

namespace SpanTree

/-- The ends of the finished spans of a tree. -/
def ends (t : SpanTree) : List Log.Event := (t.spans.filter Span.isFinished).map Span.report

theorem filterMap_range_getElem? {α β : Type} (f : α → Option β) (xs : List α) :
    (List.range xs.length).filterMap (fun i => (xs[i]?).bind f) = xs.filterMap f := by
  induction xs using List.reverseRecOn with
  | nil => rfl
  | append_singleton xs last ih =>
    rw [List.length_append, List.length_singleton, List.range_succ, List.filterMap_append,
      List.filterMap_append, ← ih]
    have final : ([xs.length].filterMap fun i => ((xs ++ [last])[i]?).bind f) =
        [last].filterMap f := by
      rw [List.filterMap_cons, List.getElem?_concat_length]
      rfl
    refine congrArg₂ _ (List.filterMap_congr fun i member => ?_) final
    rw [List.getElem?_append_left (List.mem_range.1 member)]

/-- What is finished of a list when some of it that was not is finished: what was before and
those. -/
theorem perm_filter_finish (instant : Nat) (marked : List (Span × Bool)) :
    (((marked.map fun p => if p.2 && !p.1.isFinished then p.1.finish instant else p.1).filter
        Span.isFinished).map Span.report).Perm
      (((marked.map (·.1)).filter Span.isFinished).map Span.report ++
        marked.filterMap fun p =>
          if p.2 && !p.1.isFinished then some (p.1.finish instant).report else none) := by
  induction marked with
  | nil => exact .refl _
  | cons p rest ih =>
    obtain ⟨s, inside⟩ := p
    cases running : s.isFinished with
    | true => simpa [running] using ih
    | false =>
      cases inside with
      | true => simpa [running, List.filter_cons] using (ih.cons _).trans List.perm_middle.symm
      | false => simpa [running] using ih

/-- The ends that finishing an open span reports, in the order of the tree. -/
theorem filterMap_closing (instant : Nat) {t : SpanTree} {top : Nat}
    (running : t.isFinished top = false) :
    ((t.closing top).filterMap fun i => (t.spans[i]?).map fun s => (s.finish instant).report) =
      ((t.spans.zip (marks top t.spans)).filterMap fun p =>
        if p.2 && !p.1.isFinished then some (p.1.finish instant).report else none).reverse := by
  have length : (t.spans.zip (marks top t.spans)).length = t.spans.length := by
    rw [List.length_zip, marks_length, Nat.min_self]
  rw [closing, running, if_neg Bool.false_ne_true, List.filterMap_reverse, List.filterMap_filter,
    ← filterMap_range_getElem? _ (t.spans.zip _), length]
  refine congrArg _ (List.filterMap_congr fun i member => ?_)
  have bound := List.mem_range.1 member
  have present := List.getElem?_eq_getElem bound
  have inside : i < (marks top t.spans).length := (marks_length top t.spans).symm ▸ bound
  have marked := List.getElem?_eq_getElem inside
  have both : (t.spans.zip (marks top t.spans))[i]? = some (t.spans[i], (marks top t.spans)[i]) :=
    List.getElem?_zip_eq_some.2 ⟨present, marked⟩
  rw [both, marked, isFinished_eq present, present]
  rfl

/-- Finishing a span adds the ends that are reported of it. -/
theorem ends_finish (top instant : Nat) (t : SpanTree) :
    (t.finish top instant).ends.Perm (t.ends ++ (t.closing top).filterMap fun i =>
      (t.spans[i]?).map fun s => (s.finish instant).report) := by
  cases running : t.isFinished top with
  | true => simp [finish, closing, running]
  | false =>
    have whole : (t.spans.zip (marks top t.spans)).map (·.1) = t.spans :=
      List.map_fst_zip (Nat.le_of_eq (marks_length top t.spans).symm)
    have after : (t.finish top instant).spans = (t.spans.zip (marks top t.spans)).map fun p =>
        if p.2 && !p.1.isFinished then p.1.finish instant else p.1 := by
      rw [finish, running, if_neg Bool.false_ne_true, List.map_zip_eq_zipWith]
      rfl
    have all := perm_filter_finish instant (t.spans.zip (marks top t.spans))
    rw [whole, ← after] at all
    rw [filterMap_closing instant running]
    exact all.trans ((List.reverse_perm _).symm.append_left _)

theorem ends_modifyOpen (place : Nat) (c : Span.Change) (t : SpanTree) :
    (t.modifyOpen place (Span.change c)).ends = t.ends := by
  have kept (spans : List Span) (place : Nat) :
      (spans.modify place fun s => if s.isFinished then s else Span.change c s).filter
        Span.isFinished = spans.filter Span.isFinished := by
    induction spans generalizing place with
    | nil => rw [List.modify_nil]
    | cons s rest ih =>
      cases place with
      | zero => cases ended : s.isFinished <;> simp [ended]
      | succ place => rw [List.modify_succ_cons, List.filter_cons, List.filter_cons, ih]
  exact congrArg (List.map Span.report) (kept t.spans place)

/-- A child begins open. -/
theorem ends_startChild (parent : SpanRef) (name : String) (t : SpanTree) :
    (t.startChild parent name).ends = t.ends := by
  by_cases opened : t.isOpen parent.index
  · rw [ends, spans_startChild opened, List.filter_append]
    simp [ends, Span.start, Span.isFinished]
  · rw [startChild_of_not_isOpen opened]

end SpanTree

/-- What a list gains when one of its elements is changed is what the element gains. -/
theorem perm_flatMap_modify {α β : Type} {f : α → List β} {g : α → α} {xs : List α} {k : Nat}
    {new : List β} (gained : ∀ x, xs[k]? = some x → (f (g x)).Perm (f x ++ new))
    (nothing : xs[k]? = none → new = []) :
    ((xs.modify k g).flatMap f).Perm (xs.flatMap f ++ new) := by
  induction xs generalizing k with
  | nil => simp [nothing]
  | cons x rest ih =>
    cases k with
    | zero =>
      rw [List.modify_zero_cons, List.flatMap_cons, List.flatMap_cons, List.append_assoc]
      refine ((gained x rfl).append_right _).trans ?_
      rw [List.append_assoc]
      exact List.perm_append_comm.append_left _
    | succ k =>
      rw [List.modify_succ_cons, List.flatMap_cons, List.flatMap_cons, List.append_assoc]
      exact (ih gained nothing).append_left _

/-- Of the ends of spans an effect reports none but through finishing them. -/
def Effect.Discreet : Effect ν → Prop
  | .report event => event.isEnd = false
  | _ => True

/-- One thing that happens to a world in which nobody reports the end of a span without finishing
it. -/
inductive Telling : World ν → World ν → Prop
  | act {w : World ν} {effect : Effect ν} : effect.Discreet → Telling w (effect.apply w)
  | tick {w : World ν} (instant : Nat) : Telling w (w.advance instant)

namespace World

variable {w w' : World ν}

/-- The ends of the finished spans of a world. -/
def ends (w : World ν) : List Log.Event := w.trees.flatMap SpanTree.ends

/-- Each finished span has been reported once, as it is. -/
def Told (w : World ν) : Prop := (w.log.filter Log.Event.isEnd).Perm w.ends

theorem isEnd_of_mem_closing {h : SpanRef} {event : Log.Event} (member : event ∈ w.closing h) :
    event.isEnd := by
  unfold closing at member
  split at member
  · obtain ⟨i, -, found⟩ := List.mem_filterMap.1 member
    obtain ⟨s, -, rfl⟩ := Option.map_eq_some_iff.1 found
    rfl
  · cases member

theorem Told.apply (told : w.Told) {e : Effect ν} (discreet : e.Discreet) : (e.apply w).Told := by
  have modified {k : Nat} {f : SpanTree → SpanTree} (same : ∀ t, (f t).ends = t.ends) :
      (w.log.filter Log.Event.isEnd).Perm ((w.trees.modify k f).flatMap SpanTree.ends) := by
    have all : ((w.trees.modify k f).flatMap SpanTree.ends).Perm (w.ends ++ []) :=
      perm_flatMap_modify (fun t _ => by rw [same, List.append_nil]) fun _ => rfl
    rw [List.append_nil] at all
    exact told.trans all.symm
  cases e with
  | plant label trace rootName =>
    have open_ : (SpanTree.root label trace rootName).ends = [] := rfl
    simpa [Told, ends, log, Effect.apply, open_] using told
  | branch parent name => exact modified (SpanTree.ends_startChild parent name)
  | touch span c => exact modified (SpanTree.ends_modifyOpen span.index c)
  | finish span =>
    have closed : (w.closing span).filter Log.Event.isEnd = w.closing span :=
      List.filter_eq_self.2 fun _ => isEnd_of_mem_closing
    have gained : (((Effect.finish span).apply w).ends).Perm (w.ends ++ w.closing span) := by
      refine perm_flatMap_modify (fun t tree => ?_) fun none => ?_
      · rw [closing, tree?, tree]
        exact SpanTree.ends_finish span.index w.now t
      · rw [closing, tree?, none]
    rw [Told, log, Effect.apply, List.reverse_append, List.reverse_reverse, List.filter_append,
      closed]
    exact (told.append_right _).trans gained.symm
  | report event =>
    have unseen : event.isEnd = false := discreet
    simpa [Told, ends, log, Effect.apply, unseen] using told
  | look | send _ | draw | record _ | app _ => exact told

theorem Told.tellings (told : w.Told) (happened : ReflTransGen Telling w w') : w'.Told := by
  induction happened with
  | refl => exact told
  | tail _ last ih =>
    cases last with
    | act discreet => exact ih.apply discreet
    | tick => exact ih

end World

namespace Activity

/-- In company that reports no end by itself, what reports none either leaves every finished span
reported once. -/
theorem tellings_course {others : World ν → World ν → Prop} {a : Activity ν α} {w : World ν}
    {ds : List (Deed ν)} {e : Ending ν α} (course : Course others a w ds e)
    (tellings : ∀ w w', others w w' → ReflTransGen Telling w w') (discreet : a.Only Effect.Discreet) :
    ReflTransGen Telling w e.world := by
  induction course with
  | done | panic | forever => exact .refl
  | @act _ _ w _ _ _ moved _ ih =>
    have acted : Telling w _ := .act (discreet w).1
    exact .head acted ((tellings _ _ moved).trans (ih (discreet w).2))
  | @wait instant _ _ before _ _ _ moved moved' _ ih =>
    have waited : Telling before _ := .tick instant
    exact (tellings _ _ moved).trans (.head waited ((tellings _ _ moved').trans (ih discreet)))

end Activity

open Activity

theorem Downstream.Call.discreet_run (policy : Retry.Policy) (parent : SpanRef)
    (request : Request) : (run policy parent request : Activity ν _).Only Effect.Discreet := by
  have allows : Allows (Effect.Discreet : Effect ν → Prop) := by
    constructor <;> intros <;> trivial
  exact only_run_of_allows allows policy request trivial parent

namespace Pipeline

theorem discreet_opening (deadline : Deadline) (names : Names) (route : Route)
    (request : Inbound) :
    (opening deadline names route request : Activity ν Context).Only Effect.Discreet := by
  have read : (inboundTrace request.headers : Activity ν _).Only Effect.Discreet := by
    refine ((inboundTrace_reports request.headers).mono fun es _ reports e member => ?_).only
    rw [reports e member]
    rfl
  refine only_bind (only_bind read fun inbound => ?_) fun c _ => ⟨rfl, fun _ => ⟨rfl, trivial⟩⟩
  refine only_bind (fun _ => ⟨trivial, fun _ => ⟨trivial, trivial⟩⟩) fun c => ?_
  refine only_bind (fun _ => ⟨trivial, trivial⟩) fun c => ?_
  refine only_bind (fun _ => ⟨trivial, trivial⟩) fun c => ?_
  refine only_bind (fun _ => ⟨trivial, fun _ => ⟨trivial, trivial⟩⟩) fun c => ?_
  refine only_bind (fun _ => ⟨trivial, trivial⟩) fun w => ?_
  split
  · trivial
  · exact fun _ => ⟨rfl, trivial⟩

theorem discreet_ended (stamp : String) (c : Context) (served : Option Result) :
    (ended stamp c served : Activity ν Handled).Only Effect.Discreet := by
  have closed (c : Context) (status : Nat) (cancelled : Bool) :
      (close c status cancelled : Activity ν Unit).Assures fun es _ =>
        ∀ e ∈ es, e.Discreet := by
    simp [close, assures_bind, Effect.Discreet, Log.Event.isEnd]
  cases served with
  | none =>
    refine only_bind (fun _ => ⟨rfl, trivial⟩) fun _ => ?_
    exact only_bind (closed c _ _).only fun _ => trivial
  | some result =>
    have answered : (answer c stamp result : Activity ν _).Assures fun es _ =>
        ∀ e ∈ es, e.Discreet := by
      cases result <;>
        simp [answer, answerFailure, advance, assures_bind, Effect.Discreet, Log.Event.isEnd]
    refine only_bind answered.only fun _ => ?_
    refine only_bind (fun _ => ⟨rfl, trivial⟩) fun _ => ?_
    exact only_bind (closed c _ _).only fun _ => trivial

/-- A service reports no end of a span by itself, as long as its handlers do not. -/
theorem discreet_handle {handler : Handler ν} {request : Inbound}
    (discreet : ∀ c, (handler c request).Only Effect.Discreet) (deadline : Deadline)
    (names : Names) (stamp : String) (route : Route) (patience : Option Duration) :
    (handle deadline names stamp route request handler patience).Only Effect.Discreet := by
  rw [handle_eq]
  refine only_bind (discreet_opening deadline names route request) fun c => ?_
  have served := execute_assures (discreet c) trivial (fun _ => rfl) deadline route
  have waited := withinOption_assures served trivial patience
  exact only_bind (waited.mono fun _ _ all => all.1).only (discreet_ended stamp c)

end Pipeline

/-- Finishing a span closes its subtree, in every tree that comes about:

* a finished span is left as it is, with all else, and nothing is reported; an open one is finished
  with all that is open under it, and nothing else changes but that each of them is reported, after
  all that lies under it;
* after any calls to finish spans, just what was finished or lies under one of these is finished;
* as long as nobody reports the end of a span without finishing it, which calls and the handling of
  requests do not, every finished span has been reported once. -/
theorem finish_closes_subtree {network : Downstream.Network} {draws : List Nat} {app : ν}
    {w : World ν} {handles : List SpanRef}
    (history : ReflTransGen Step (World.start network draws app, []) (w, handles)) :
    (∀ (h : SpanRef) (t : SpanTree) (s : Span), w.trees[h.tree]? = some t →
      t.spans[h.index]? = some s →
      (s.isFinished → (Effect.finish h).apply w = w) ∧
      (¬ s.isFinished → ∃ spans places told, t.Closes h.index w.now spans places told ∧
        (Effect.finish h).apply w = { w with
          trees := w.trees.set h.tree { t with spans }
          reports := told.reverse ++ w.reports })) ∧
    (∀ (calls : List (Nat × SpanRef)) (g : SpanRef),
      (w.finishAll calls).isFinished g ↔ w.isFinished g ∨ ∃ call ∈ calls, w.Covers call.2 g) ∧
    (∀ w', ReflTransGen Telling (World.start network draws app) w' →
      (w'.log.filter Log.Event.isEnd).Perm w'.ends) ∧
    (∀ others, (∀ w w' : World ν, others w w' → ReflTransGen Telling w w') →
      (∀ policy parent request w ds e,
        Course others (Downstream.Call.run policy parent request) w ds e →
        ReflTransGen Telling w e.world) ∧
      ∀ deadline names stamp route request patience, ∀ handler : Pipeline.Handler ν,
        (∀ c, (handler c request).Only Effect.Discreet) → ∀ w ds e,
        Course others
          (Pipeline.handle deadline names stamp route request handler patience) w ds e →
        ReflTransGen Telling w e.world) := by
  have sound := (Sound.start network draws app).steps history
  have nested : ∀ t ∈ w.trees, t.Nested := fun t member => (sound.wellFormed t member).nested
  refine ⟨fun h t s tree present => ⟨fun stale => ?_, fun running => ?_⟩,
    fun calls g => World.isFinished_finishAll_iff nested calls, fun w' happened => ?_,
    fun others tellings => ⟨?_, ?_⟩⟩
  · have stale : t.isFinished h.index := (SpanTree.isFinished_eq present).trans stale
    have same (t' : SpanTree) (there : w.trees[h.tree]? = some t') :
        t'.finish h.index w.now = t' := by
      obtain rfl := Option.some.inj (tree.symm.trans there)
      rw [SpanTree.finish, if_pos stale]
    have quiet : w.closing h = [] := by
      simp [World.closing, World.tree?, tree, SpanTree.closing, stale]
    rw [Effect.apply, World.trees_modify_of_same same, quiet]
    rfl
  · have running : t.isFinished h.index = false := by
      simpa [SpanTree.isFinished_eq present] using running
    have closes := (nested t (List.mem_of_getElem? tree)).closes_finish running w.now
    refine ⟨_, _, _, closes, ?_⟩
    have trees : w.trees.modify h.tree (·.finish h.index w.now) =
        w.trees.set h.tree { t with spans := (t.finish h.index w.now).spans } := by
      have remade := SpanTree.remade_finish h.index w.now t
      rw [World.trees_modify_of_present tree, ← remade.name_eq, ← remade.trace_eq]
    have told : w.closing h = (t.closing h.index).filterMap fun i =>
        (t.spans[i]?).map fun s => (s.finish w.now).report := by
      rw [World.closing, World.tree?, tree]
      rfl
    rw [Effect.apply, trees, told]
  · have told : (World.start network draws app).Told := .nil
    exact told.tellings happened
  · intro policy parent request w ds e course
    exact tellings_course course tellings (Downstream.Call.discreet_run policy parent request)
  · intro deadline names stamp route request patience handler discreet w ds e course
    exact tellings_course course tellings
      (Pipeline.discreet_handle discreet deadline names stamp route patience)

/-- A grandchild is finished with its parent, and the root is not. -/
theorem finish_closes_subtree_grandchild :
    let root : SpanRef := ⟨0, 0, ⟨"t", 0⟩⟩
    let child : SpanRef := ⟨0, 1, ⟨"t", 1⟩⟩
    let grandchild : SpanRef := ⟨0, 2, ⟨"t", 2⟩⟩
    let planted : World Unit := (Effect.plant "t" "trace" "request").apply (.start .alone [] ())
    let grown := (Effect.branch root "child").apply planted
    let w := (Effect.branch child "grandchild").apply grown
    ReflTransGen Step (World.start .alone [] (), []) (w, [grandchild, child, root]) ∧
      (w.finishAll [(3, child)]).isFinished grandchild ∧
      ¬ (w.finishAll [(3, child)]).isFinished root := by
  intro root child grandchild planted grown w
  have first : Step (World.start .alone [] (), []) (planted, [root]) := .act (List.forall_mem_nil _)
  have second : Step (planted, [root]) (grown, [child, root]) :=
    .act (List.forall_mem_singleton.2 (List.mem_singleton_self root))
  have third : Step (grown, [child, root]) (w, [grandchild, child, root]) :=
    .act (List.forall_mem_singleton.2 List.mem_cons_self)
  have history := ((ReflTransGen.single first).tail second).tail third
  obtain ⟨-, finished, -, -⟩ := finish_closes_subtree history
  refine ⟨history, (finished _ _).2 (.inr ⟨_, List.mem_singleton_self _, ?_⟩), ?_⟩
  · exact ⟨_, rfl, by decide, rfl, .child .self rfl rfl⟩
  · decide

end Ingress
