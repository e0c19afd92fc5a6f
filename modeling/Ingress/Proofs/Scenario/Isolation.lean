import Ingress.Proofs.Scenario.Naming

/-!
# Isolation of requests

Requests that go on in one world know nothing of each other. The tree of a request is the one that
it would have in a world of its own, where nothing but its own operations is done. The two worlds
are compared step by step: they differ in the place of the tree, and handles are moved accordingly.
-/

namespace Ingress

open Activity

/-- The handle in a world whose only tree is that of the handle. -/
def SpanRef.alone (s : SpanRef) : SpanRef := { s with tree := 0 }

/-- The context in a world whose only tree is that of the context. -/
def Context.alone (c : Context) : Context := { c with root := c.root.alone }

theorem Context.Setting.put_alone (s : Setting) (c : Context) : s.put c.alone = (s.put c).alone := by
  cases s <;> rfl

namespace Effect

/-- The effect in a world whose only tree is that of its handle. -/
def alone : Effect ν → Effect ν
  | branch parent name => branch parent.alone name
  | touch span change => touch span.alone change
  | finish span => finish span.alone
  | e => e

variable {e : Effect ν} {h : SpanRef}

theorem app_apply_of_through (through : e.through = [h]) (w : World ν) : (e.apply w).app = w.app := by
  cases e <;> first | rfl | cases through

/-- An effect through a handle changes its tree alone, and in the same way wherever the tree is. -/
theorem trees_apply_of_through (through : e.through = [h]) (w : World ν) :
    ∃ f, (e.apply w).trees = w.trees.modify h.tree f ∧
      ∀ v : World ν, v.now = w.now → (e.alone.apply v).trees = v.trees.modify 0 f := by
  cases e with
  | branch parent name =>
    -- A child has its name and its parent from the handle, but not the place of the tree.
    cases through
    refine ⟨_, rfl, fun v _ => congrArg (v.trees.modify 0) (funext fun t => ?_)⟩
    unfold SpanTree.startChild SpanTree.child?
    by_cases opened : t.isOpen h.index <;> simp [SpanRef.alone, opened]
  | touch span change =>
    cases through
    exact ⟨_, rfl, fun _ _ => rfl⟩
  | finish span =>
    cases through
    refine ⟨_, rfl, fun v same => ?_⟩
    rw [← same]
    rfl
  | plant _ _ _ | look | send _ | draw | report _ | record _ | app _ => cases through

end Effect

namespace Scenario

namespace Board

variable {b own : Board} {name : String} {c : Context} {s : SpanRef} {k : Nat}

/-- A board with the names of one request, next to one with the names of all. -/
structure Isolated (k : Nat) (b own : Board) : Prop where
  contexts : ∀ name c, b.context? name = some c → c.root.tree = k →
    own.context? name = some c.alone
  spans : ∀ name s, b.named? name = some s → s.tree = k → own.named? name = some s.alone
  /-- No child hides a context that has its name. -/
  unnamed : ∀ name, b.named? name = none → own.named? name = none

namespace Isolated

variable (iso : Isolated k b own)
include iso

/-- What a name stands for in the request, it stands for on its own board. -/
theorem span? (known : b.span? name = some s) (here : s.tree = k) :
    own.span? name = some s.alone := by
  rw [span?_eq] at known ⊢
  cases child : b.named? name with
  | some s' =>
    rw [child] at known
    obtain rfl := Option.some.inj known
    rw [iso.spans name _ child here]
    rfl
  | none =>
    rw [child, Option.none_or] at known
    obtain ⟨c, bound, rfl⟩ := Option.map_eq_some_iff.1 known
    rw [iso.unnamed name child, Option.none_or, iso.contexts name c bound here]
    rfl

/-- A parent of the request is of the tree of its contexts on both boards. -/
theorem native {through : Option String} (native : b.Native through s) (here : s.tree = k) :
    own.Native through s.alone := by
  intro caller member
  obtain ⟨c, bound, same⟩ := native caller member
  exact ⟨c.alone, iso.contexts caller c bound (same ▸ here), rfl⟩

theorem bind (name : String) (c : Context) :
    Isolated k (b.bind name c) (own.bind name c.alone) where
  contexts other c' bound here' := by
    rw [context?_bind] at bound ⊢
    by_cases same : name = other
    · rw [if_pos same] at bound ⊢
      rw [Option.some.inj bound]
    · rw [if_neg same] at bound ⊢
      exact iso.contexts other c' bound here'
  spans := iso.spans
  unnamed := iso.unnamed

theorem bind_elsewhere (name : String) (elsewhere : c.root.tree ≠ k) :
    Isolated k (b.bind name c) own where
  contexts other c' bound here' := by
    rw [context?_bind] at bound
    split at bound
    · obtain rfl := Option.some.inj bound
      exact absurd here' elsewhere
    · exact iso.contexts other c' bound here'
  spans := iso.spans
  unnamed := iso.unnamed

theorem bindSpan (name : String) (s : SpanRef) :
    Isolated k (b.bindSpan name s) (own.bindSpan name s.alone) where
  contexts := iso.contexts
  spans other s' bound here' := by
    rw [named?_bindSpan] at bound ⊢
    by_cases same : name = other
    · rw [if_pos same] at bound ⊢
      rw [Option.some.inj bound]
    · rw [if_neg same] at bound ⊢
      exact iso.spans other s' bound here'
  unnamed other unbound := by
    rw [named?_bindSpan] at unbound ⊢
    by_cases same : name = other
    · rw [if_pos same] at unbound
      cases unbound
    · rw [if_neg same] at unbound ⊢
      exact iso.unnamed other unbound

theorem bindSpan_elsewhere (name : String) (elsewhere : s.tree ≠ k) :
    Isolated k (b.bindSpan name s) own where
  contexts := iso.contexts
  spans other s' bound here' := by
    rw [named?_bindSpan] at bound
    split at bound
    · obtain rfl := Option.some.inj bound
      exact absurd here' elsewhere
    · exact iso.spans other s' bound here'
  unnamed other unbound := by
    rw [named?_bindSpan] at unbound
    split at unbound
    · cases unbound
    · exact iso.unnamed other unbound

end Isolated

end Board

/-- A world with one request, next to one with all of them. -/
structure Isolated (k : Nat) (w own : World Board) : Prop where
  now_eq : own.now = w.now
  trees_eq : own.trees = (w.trees[k]?).toList
  board : Board.Isolated k w.app own.app

namespace Isolated

variable {w own : World Board} {k : Nat} {e : Effect Board} {h : SpanRef}
  (iso : Isolated k w own)
include iso

/-- What is done to the tree of the request is done to it in both worlds. -/
theorem apply (through : e.through = [h]) (here : h.tree = k) :
    Isolated k (e.apply w) (e.alone.apply own) := by
  obtain ⟨f, shared, single⟩ := Effect.trees_apply_of_through through w
  have through' : e.alone.through = [h.alone] := by
    cases e <;> first | cases through; rfl | cases through
  refine ⟨?_, ?_, ?_⟩
  · rw [Effect.now_apply, Effect.now_apply, iso.now_eq]
  · rw [single own iso.now_eq, shared, iso.trees_eq, here, List.getElem?_modify]
    cases w.trees[k]? <;> simp
  · rw [Effect.app_apply_of_through through, Effect.app_apply_of_through through']
    exact iso.board

/-- What is done to other trees does not show in the tree of the request. -/
theorem apply_elsewhere (through : e.through = [h]) (elsewhere : h.tree ≠ k) :
    Isolated k (e.apply w) own := by
  obtain ⟨f, shared, -⟩ := Effect.trees_apply_of_through through w
  refine ⟨?_, ?_, ?_⟩
  · rw [Effect.now_apply, iso.now_eq]
  · rw [shared, iso.trees_eq, List.getElem?_modify]
    cases w.trees[k]? <;> simp [elsewhere]
  · rw [Effect.app_apply_of_through through]
    exact iso.board

theorem noted (here : h.tree = k) (changes : List Span.Change) :
    Isolated k (w.noted h changes) (own.noted h.alone changes) := by
  induction changes generalizing w own with
  | nil => exact iso
  | cons change rest ih => exact ih (iso.apply rfl here)

theorem noted_elsewhere (elsewhere : h.tree ≠ k) (changes : List Span.Change) :
    Isolated k (w.noted h changes) own := by
  induction changes generalizing w with
  | nil => exact iso
  | cons change rest ih => exact ih (iso.apply_elsewhere rfl elsewhere)

/-- The first operation of a request plants its tree. -/
theorem plant (here : w.trees.length = k) (label trace rootName : String) :
    Isolated k ((Effect.plant label trace rootName).apply w)
      ((Effect.plant label trace rootName).apply own) where
  now_eq := iso.now_eq
  trees_eq := by
    subst here
    have before : own.trees = [] := by simp [iso.trees_eq]
    simp [Effect.apply, before]
  board := iso.board

theorem plant_elsewhere (elsewhere : w.trees.length ≠ k) (label trace rootName : String) :
    Isolated k ((Effect.plant label trace rootName).apply w) own where
  now_eq := iso.now_eq
  trees_eq := by
    rw [iso.trees_eq]
    simp only [Effect.apply, List.getElem?_append]
    by_cases old : k < w.trees.length
    · rw [if_pos old]
    · rw [if_neg old, List.getElem?_eq_none (Nat.le_of_not_lt old), List.getElem?_eq_none]
      simp only [List.length_singleton]
      omega
  board := iso.board

theorem slept (length : Duration) : Isolated k (w.slept length) (own.slept length) := by
  unfold World.slept
  split
  · exact iso
  · refine ⟨?_, iso.trees_eq, iso.board⟩
    rw [World.advance, World.advance, iso.now_eq]

/-- A span of the request gets the same child in both worlds, or none. -/
theorem child (here : h.tree = k) :
    own.child h.alone = (w.child h).map SpanRef.alone := by
  have tree : own.tree? h.alone = w.tree? h := by
    rw [World.tree?, World.tree?, iso.trees_eq, here]
    cases w.trees[k]? <;> rfl
  rw [World.child, World.child, tree]
  cases w.tree? h with
  | none => rfl
  | some t =>
    by_cases opened : t.isOpen h.index <;>
      simp [SpanTree.child?, SpanRef.alone, opened, Except.map]

theorem app {f g : Board → Board} (board : Board.Isolated k (f w.app) (g own.app)) :
    Isolated k ((Effect.app f).apply w) ((Effect.app g).apply own) :=
  ⟨iso.now_eq, iso.trees_eq, board⟩

theorem app_elsewhere {f : Board → Board} (board : Board.Isolated k (f w.app) own.app) :
    Isolated k ((Effect.app f).apply w) own :=
  ⟨iso.now_eq, iso.trees_eq, board⟩

theorem entered (s : Setting) (x : Step) (finding : Finding) :
    Isolated k (Play.entered s x finding w) own :=
  iso.app_elsewhere ⟨iso.board.contexts, iso.board.spans, iso.board.unnamed⟩

theorem entered_own (s : Setting) (x : Step) (finding : Finding) :
    Isolated k w (Play.entered s x finding own) :=
  ⟨iso.now_eq, iso.trees_eq, iso.board.contexts, iso.board.spans, iso.board.unnamed⟩

end Isolated

namespace Becomes

variable {w w' own : World Board} {x : Step} {k : Nat}

/-- A pause, and an operation that is addressed to the tree of a request, is done for the request
alone as it is done for all. -/
theorem isolated (becomes : Becomes w x w') (iso : Isolated k w own)
    (concerns : x.tree? w = some k ∨ x.isPause) :
    ∃ own', Becomes own x own' ∧ Isolated k w' own' := by
  cases becomes with
  | idle operation moves nobody => simp [nobody, moves] at concerns
  | sleep length => exact ⟨_, .sleep length, iso.slept _⟩
  | start context label inbound c begun =>
    subst begun
    -- The request has no tree yet, so its own world has none at all.
    have here : w.trees.length = k := by simpa [Step.tree?, Step.isPause] using concerns
    have before : own.trees = [] := by simp [iso.trees_eq, ← here]
    have moved : (Context.fresh ⟨label, "<uuid:" ++ label ++ ">"⟩ inbound w).alone =
        .fresh ⟨label, "<uuid:" ++ label ++ ">"⟩ inbound own := by
      simp [Context.alone, Context.fresh, SpanRef.alone, before, iso.now_eq]
    have planted := iso.plant here label (Context.traceOf inbound ("<uuid:" ++ label ++ ">"))
      Context.rootName
    refine ⟨_, .start context label inbound _ rfl, planted.app ?_⟩
    rw [← moved]
    exact planted.board.bind context _
  | @clone copy source c known =>
    have here : c.root.tree = k := by simpa [Step.tree?, known, Step.isPause] using concerns
    exact ⟨_, .clone copy (iso.board.contexts _ c known here), iso.app (iso.board.bind copy c)⟩
  | @set x name setting c sets known =>
    have here : c.root.tree = k := by
      simpa [Step.tree?_of_setting? sets, Step.isPause_of_setting? sets, known] using concerns
    have noted := iso.noted here setting.notes
    refine ⟨_, .set sets (iso.board.contexts name c known here), noted.app ?_⟩
    rw [Context.Setting.put_alone]
    exact noted.board.bind name _
  | @child through parent name as_ p s known native started =>
    have here : p.tree = k := by
      simpa [Step.tree?_of_native known native, Step.isPause] using concerns
    have started' : own.child p.alone = .ok s.alone := by
      rw [iso.child here, started]
      rfl
    have grown := iso.apply (e := .branch p name) rfl here
    exact ⟨_, .child (iso.board.span? known here) (iso.board.native native here) started',
      grown.app (grown.board.bindSpan as_ s)⟩
  | @barren through parent name as_ p e known native finished =>
    have here : p.tree = k := by
      simpa [Step.tree?_of_native known native, Step.isPause] using concerns
    have finished' : own.child p.alone = .error e := by
      rw [iso.child here, finished]
      rfl
    exact ⟨_, .barren (iso.board.span? known here) (iso.board.native native here) finished',
      iso.apply rfl here⟩
  | @change span s known change =>
    have here : s.tree = k := by simpa [Step.tree?, known, Step.isPause] using concerns
    exact ⟨_, .change (iso.board.span? known here) change, iso.apply rfl here⟩
  | @finish span s known =>
    have here : s.tree = k := by simpa [Step.tree?, known, Step.isPause] using concerns
    exact ⟨_, .finish (iso.board.span? known here), iso.apply rfl here⟩

/-- An operation that is addressed to another tree, or to none, is nothing to the request. -/
theorem isolated_elsewhere (becomes : Becomes w x w') (iso : Isolated k w own)
    (elsewhere : x.tree? w ≠ some k) (moves : x.isPause = false) : Isolated k w' own := by
  cases becomes with
  | idle => exact iso
  | sleep => cases moves
  | start context label inbound c begun =>
    have apart : w.trees.length ≠ k := by simpa [Step.tree?] using elsewhere
    have planted := iso.plant_elsewhere apart label c.traceId Context.rootName
    refine planted.app_elsewhere (planted.board.bind_elsewhere context ?_)
    rw [begun]
    exact apart
  | @clone copy source c known =>
    have apart : c.root.tree ≠ k := by simpa [Step.tree?, known] using elsewhere
    exact iso.app_elsewhere (iso.board.bind_elsewhere copy apart)
  | @set x name setting c sets known =>
    have apart : c.root.tree ≠ k := by
      simpa [Step.tree?_of_setting? sets, known] using elsewhere
    have noted := iso.noted_elsewhere apart setting.notes
    refine noted.app_elsewhere (noted.board.bind_elsewhere name ?_)
    rw [Context.Setting.root_put]
    exact apart
  | @child through parent name as_ p s known native started =>
    have apart : p.tree ≠ k := by simpa [Step.tree?_of_native known native] using elsewhere
    have grown := iso.apply_elsewhere (e := .branch p name) rfl apart
    refine grown.app_elsewhere (grown.board.bindSpan_elsewhere as_ ?_)
    obtain ⟨t, -, -, rfl⟩ := World.child_eq_ok.1 started
    exact apart
  | barren known native finished =>
    rw [Step.tree?_of_native known native] at elsewhere
    exact iso.apply_elsewhere rfl fun here => elsewhere (congrArg some here)
  | @change span s known change =>
    have apart : s.tree ≠ k := by simpa [Step.tree?, known] using elsewhere
    exact iso.apply_elsewhere rfl apart
  | @finish span s known =>
    have apart : s.tree ≠ k := by simpa [Step.tree?, known] using elsewhere
    exact iso.apply_elsewhere rfl apart

end Becomes

/-- The operations among some steps that are addressed to one tree, and the pauses. To which tree a
step is addressed depends on the world that it meets. -/
def addressed (s : Setting) (k : Nat) : List Step → World Board → List Step
  | [], _ => []
  | x :: rest, w =>
    let later := addressed s k rest ((Play.steps s [x]).run w).world
    if x.tree? w = some k ∨ x.isPause then x :: later else later

theorem addressed_sublist (s : Setting) (k : Nat) (xs : List Step) (w : World Board) :
    (addressed s k xs w).Sublist xs := by
  induction xs generalizing w with
  | nil => exact .slnil
  | cons x rest ih =>
    unfold addressed
    split
    · exact (ih _).cons_cons x
    · exact (ih _).cons x

/-- A request has the same tree with and without the operations of others. -/
theorem isolated_steps {s : Setting} {k : Nat} {xs : List Step} {w own : World Board}
    (operations : ∀ x ∈ xs, x.isOperation) (iso : Isolated k w own) :
    ∃ last alone, (Play.steps s xs).run w = .done none last ∧
      (Play.steps s (addressed s k xs w)).run own = .done none alone ∧ Isolated k last alone := by
  -- A step of another request moves on the shared world alone, so both worlds have to vary.
  induction xs generalizing w own with
  | nil => exact ⟨w, own, rfl, rfl, iso⟩
  | cons x rest ih =>
    obtain ⟨operation, operations⟩ := List.forall_mem_cons.1 operations
    obtain ⟨w', becomes⟩ := Becomes.exists_of_isOperation w operation
    obtain ⟨finding, played⟩ := becomes.run s
    have single : ((Play.steps s [x]).run w).world = Play.entered s x finding w' := by
      rw [Play.run_steps_cons played]
      rfl
    rw [Play.run_steps_cons played, addressed, single]
    by_cases concerns : x.tree? w = some k ∨ x.isPause
    · obtain ⟨own', becomes', iso'⟩ := becomes.isolated iso concerns
      obtain ⟨finding', played'⟩ := becomes'.run s
      rw [if_pos concerns, Play.run_steps_cons played']
      exact ih operations ((iso'.entered s x finding).entered_own s x finding')
    · obtain ⟨elsewhere, moves⟩ := not_or.1 concerns
      have iso' := becomes.isolated_elsewhere iso elsewhere (by simpa using moves)
      rw [if_neg concerns]
      exact ih operations (iso'.entered s x finding)

/-- Two names stand for contexts of one request: whatever is set on either is noted on its root, and
whatever is started through either is started for both. -/
structure Shares (s : Setting) (w : World Board) (root : SpanRef) (a b : String) : Prop where
  request : ∃ trace, StandsFor a root trace w ∧ StandsFor b root trace w
  set : ∀ (setting : Context.Setting) (x : Step),
    x.setting? = some (a, setting) ∨ x.setting? = some (b, setting) →
    ((Play.step s x).run w).world.trees = (w.noted root setting.notes).trees
  child : ∀ parent name as_, (Play.step s (.child (some a) parent name as_)).run w =
    (Play.step s (.child (some b) parent name as_)).run w

theorem shares_of_standsFor (s : Setting) {w : World Board} {root : SpanRef} {trace a b : String}
    (first : StandsFor a root trace w) (second : StandsFor b root trace w) :
    Shares s w root a b := by
  have noted {name : String} (stands : StandsFor name root trace w) {setting : Context.Setting}
      {x : Step} (sets : x.setting? = some (name, setting)) :
      ((Play.step s x).run w).world.trees = (w.noted root setting.notes).trees := by
    obtain ⟨c, bound, rfl, -⟩ := stands
    obtain ⟨_, played⟩ := (Becomes.set sets bound).run s
    rw [played]
    rfl
  refine ⟨⟨trace, first, second⟩, fun setting x sets => ?_, fun parent name as_ => ?_⟩
  · rcases sets with sets | sets
    · exact noted first sets
    · exact noted second sets
  · obtain ⟨c, bound, rfl, rfl⟩ := first
    obtain ⟨d, bound', root, trace⟩ := second
    cases known : w.app.span? parent with
    | none =>
      have unknown := Play.run_withSpan_of_none known
      exact (unknown _).trans (unknown _).symm
    | some p =>
      by_cases native : p.tree = c.root.tree
      · refine (Play.run_child_native known ?_ s name as_).trans
          (Play.run_child_native known ?_ s name as_).symm
        · rintro _ ⟨⟩
          exact ⟨c, bound, native⟩
        · rintro _ ⟨⟩
          exact ⟨d, bound', root ▸ native⟩
      · have foreign : p.tree ≠ d.root.tree := by rwa [root]
        rw [Play.run_child_foreign known bound native, Play.run_child_foreign known bound' foreign,
          trace]

/-- A copy of a context goes on to share the tree of the request with its origin, whatever is done
meanwhile. -/
theorem shares_of_clone (s : Setting) {w : World Board} {copy source : String} {c : Context}
    {ys : List Step} (bound : w.app.context? source = some c)
    (operations : ∀ y ∈ ys, y.isOperation)
    (kept : ∀ y ∈ ys, y.binds? ≠ some copy ∧ y.binds? ≠ some source) :
    ∃ last, (Play.steps s (.clone copy source :: ys)).run w = .done none last ∧
      Shares s last c.root copy source := by
  obtain ⟨finding, played⟩ := (Becomes.clone copy bound).run s
  have copied := StandsFor.bind_self copy c w
  have original : StandsFor source c.root c.traceId ((Effect.app (·.bind copy c)).apply w) := by
    have before : StandsFor source c.root c.traceId w := ⟨c, bound, rfl, rfl⟩
    by_cases same : copy = source
    · subst same
      exact copied
    · exact before.bind_of_ne same c
  -- Both names are followed at once, so that they are known in one and the same last world.
  obtain ⟨last, ran, one, other⟩ := exists_run_steps (s := s) operations
    (P := fun w => StandsFor copy c.root c.traceId w ∧ StandsFor source c.root c.traceId w)
    (fun y member _ _ becomes both =>
      ⟨becomes.standsFor (kept y member).1 both.1, becomes.standsFor (kept y member).2 both.2⟩)
    (fun x finding _ both => ⟨both.1.entered s x finding, both.2.entered s x finding⟩)
    ⟨copied.entered s (.clone copy source) finding, original.entered s (.clone copy source) finding⟩
  refine ⟨last, ?_, shares_of_standsFor s one other⟩
  rw [Play.run_steps_cons played]
  exact ran

/-- However the operations on any number of requests are mixed, the tree of each request is the one
that it has when only the operations that are addressed to it are done, in their order. At any time
a copy of a context stays with the request of its origin, whatever is done afterwards. And a span of
another request is never taken for a parent, be its trace the same or not: the error names the span
and the trace of the caller, and nothing has changed. -/
theorem steps_isolated (s : Setting) (network : Downstream.Network) (draws : List Nat)
    (xs : List Step) (operations : ∀ x ∈ xs, x.isOperation) :
    let start : World Board := .start network draws .empty
    ∃ w, (Play.steps s xs).run start = .done none w ∧
      (∀ k t, w.trees[k]? = some t →
        (addressed s k xs start).Sublist xs ∧
        ∃ alone, (Play.steps s (addressed s k xs start)).run start = .done none alone ∧
          alone.trees = [t]) ∧
      (∀ copy source c ys, w.app.context? source = some c → (∀ y ∈ ys, y.isOperation) →
        (∀ y ∈ ys, y.binds? ≠ some copy ∧ y.binds? ≠ some source) →
        ∃ last, (Play.steps s (.clone copy source :: ys)).run w = .done none last ∧
          Shares s last c.root copy source) ∧
      ∀ caller c parent p, w.app.context? caller = some c → w.app.span? parent = some p →
        p.tree ≠ c.root.tree →
        (∃ span, w.span? p = some span ∧ span.id = p.id) ∧ w.Carries c.root.tree c.traceId ∧
        (∀ name as_, (Play.step s (.child (some caller) parent name as_)).run w =
          .done (.went (.noChild (.foreignSpan p.id c.traceId))) w) ∧
        ∀ client : Downstream.Client, client.context = c →
          (client.under p).run w = .done (.error (.trace (.foreignSpan p.id c.traceId))) w := by
  intro start
  obtain ⟨w, ran, known⟩ := exists_run_steps (s := s) operations
    (fun _ _ _ _ becomes => becomes.known) (fun _ _ _ known => ⟨known.contexts, known.spans⟩)
    (Known.start network draws)
  refine ⟨w, ran, fun k t tree => ⟨addressed_sublist s k xs start, ?_⟩,
    fun copy source c ys bound => shares_of_clone s bound,
    fun caller c parent p bound named foreign => ⟨?_, (known.contexts caller c bound).2,
      fun name as_ => Play.run_child_foreign named bound foreign s name as_, ?_⟩⟩
  · have nothing : Isolated k start start :=
      ⟨rfl, rfl, nofun, nofun, fun _ _ => rfl⟩
    obtain ⟨last, alone, ran', ranAlone, iso⟩ := isolated_steps (s := s) operations nothing
    obtain rfl : last = w := by
      rw [ran] at ran'
      exact (Ending.done.inj ran').2.symm
    refine ⟨alone, ranAlone, ?_⟩
    rw [iso.trees_eq, tree]
    rfl
  · obtain ⟨o, origin, same⟩ := known.span? named
    obtain ⟨span, there, rfl⟩ := Option.map_eq_some_iff.1 origin
    exact ⟨span, there, same⟩
  · rintro client rfl
    rw [Downstream.Client.under, if_neg foreign]
    rfl

/-- Two requests that bring the same trace. One has a copy and a child, which the other one takes for
a parent. -/
def mingled : List Step :=
  [.start "a" "r" (some "trace"), .start "b" "q" (some "trace"), .method "b" "PUT",
    .clone "again" "a", .child (some "again") "a" "load" "x", .child (some "b") "x" "steal" "y",
    .sleep (.ofMillis 5), .finish "b", .change "x" (.status .ok), .finish "again"]

/-- The first of the two requests has the tree that it has alone, and the other one is refused its
child. -/
theorem steps_isolated_mingled :
    let s : Setting := ⟨"handler", .once, .empty⟩
    let start : World Board := .start .alone [] .empty
    ∃ w t alone, (Play.steps s mingled).run start = .done none w ∧ w.trees[0]? = some t ∧
      t.spans.length = 2 ∧
      (Play.steps s [.start "a" "r" (some "trace"), .clone "again" "a",
        .child (some "again") "a" "load" "x", .sleep (.ofMillis 5), .change "x" (.status .ok),
        .finish "again"]).run start = .done none alone ∧ alone.trees = [t] ∧
      (Play.step s (.child (some "b") "x" "steal" "y")).run w =
        .done (.went (.noChild (.foreignSpan ⟨"r", 1⟩ "trace"))) w := by
  obtain ⟨w, ran, isolated, -, foreign⟩ :=
    steps_isolated ⟨"handler", .once, .empty⟩ .alone [] mingled (by decide)
  have last : ((Play.steps ⟨"handler", .once, .empty⟩ mingled).run
      (.start .alone [] .empty)).world = w := congrArg Ending.world ran
  have first : (w.trees[0]?).map (·.spans.length) = some 2 := by
    rw [← last]
    rfl
  have caller : (w.app.context? "b").map (fun c => (c.root, c.traceId)) =
      some (⟨1, 0, ⟨"q", 0⟩⟩, "trace") := by
    rw [← last]
    rfl
  have parent : w.app.span? "x" = some ⟨0, 1, ⟨"r", 1⟩⟩ := by
    rw [← last]
    rfl
  obtain ⟨t, tree, count⟩ := Option.map_eq_some_iff.1 first
  obtain ⟨c, bound, same⟩ := Option.map_eq_some_iff.1 caller
  obtain ⟨root, trace⟩ := Prod.mk.inj same
  obtain ⟨-, alone, ranAlone, trees⟩ := isolated 0 t tree
  have apart : (0 : Nat) ≠ c.root.tree := by
    rw [root]
    decide
  obtain ⟨-, -, refused, -⟩ := foreign "b" c "x" _ bound parent apart
  refine ⟨w, t, alone, ran, tree, count, ranAlone, trees, ?_⟩
  rw [← trace]
  exact refused "steal" "y"

end Scenario

end Ingress
