import Ingress.Proofs.Activity.Timing
import Ingress.Proofs.Context.Setting
import Ingress.Proofs.Span.Trace
import Ingress.Scenario.Play

/-!
# Operations

The steps that work on contexts and spans and on nothing else. What such a step makes of a world
depends on what its names stand for, and comes down to a few cases.
-/

namespace Ingress

open Activity

/-- Carries out changes of a span, one after the other. -/
def World.noted (span : SpanRef) (changes : List Span.Change) (w : World ν) : World ν :=
  changes.foldl (fun w change => (Effect.touch span change).apply w) w

theorem Activity.run_touches (span : SpanRef) (changes : List Span.Change) (w : World ν) :
    (touches span changes).run w = .done () (w.noted span changes) := by
  induction changes generalizing w with
  | nil => rfl
  | cons change rest ih => exact ih _

namespace Context

theorem Setting.run_set (s : Setting) (c : Context) (w : World ν) :
    (s.set c).run w = .done (s.put c) (w.noted c.root s.notes) := by
  rw [Setting.set_eq, run_bind, run_touches]
  rfl

/-- The context of a request that begins in a world. -/
def fresh (names : Names) (inbound : Option String) (w : World ν) : Context :=
  ⟨traceOf inbound names.trace, ⟨w.trees.length, 0, ⟨names.tree, 0⟩⟩, none, none, none, "", "", none,
    w.now⟩

end Context

namespace Scenario

/-- What a step sets, on the context of which name. -/
def Step.setting? : Step → Option (String × Context.Setting)
  | .method context value => some (context, .method value)
  | .path context value => some (context, .path value)
  | .route context (.ok value) => some (context, .route value)
  | .identity context (.ok value) => some (context, .identity value)
  | .authorization context value => some (context, .authorization value)
  | .deadline context granted => some (context, .deadline granted)
  | _ => none

/-- Whether a step works on contexts and spans alone, or pauses. -/
def Step.isOperation : Step → Bool
  | .start .. | .clone .. | .method .. | .path .. | .route .. | .identity .. | .authorization ..
  | .deadline .. | .child .. | .change .. | .finish .. | .sleep .. => true
  | _ => false

def Step.isPause : Step → Bool
  | .sleep _ => true
  | _ => false

/-- The name that a step gives to a context of its choice. -/
def Step.binds? : Step → Option String
  | .start context .. | .clone context .. => some context
  | _ => none

/-- The kinds of operations. -/
inductive Step.Operates : Step → Prop
  | start (context label : String) (inbound : Option String) : Operates (.start context label inbound)
  | clone (copy source : String) : Operates (.clone copy source)
  | set {x : Step} {name : String} {setting : Context.Setting}
      (sets : x.setting? = some (name, setting)) : Operates x
  | badRoute (context : String) (why : Json.Refusal) : Operates (.route context (.error why))
  | badIdentity (context : String) (why : Json.Refusal) : Operates (.identity context (.error why))
  | child (through : Option String) (parent name as_ : String) :
      Operates (.child through parent name as_)
  | change (span : String) (change : Span.Change) : Operates (.change span change)
  | finish (span : String) : Operates (.finish span)
  | sleep (length : Duration) : Operates (.sleep length)

theorem Step.operates_of_isOperation {x : Step} (operation : x.isOperation) : x.Operates := by
  cases x with
  | start context label inbound => exact .start context label inbound
  | clone copy source => exact .clone copy source
  | route context value =>
    cases value with
    | error why => exact .badRoute context why
    | ok value => exact .set rfl
  | identity context value =>
    cases value with
    | error why => exact .badIdentity context why
    | ok value => exact .set rfl
  | method _ _ | path _ _ | authorization _ _ | deadline _ _ => exact .set rfl
  | child through parent name as_ => exact .child through parent name as_
  | change span change => exact .change span change
  | finish span => exact .finish span
  | sleep length => exact .sleep length
  | _ => cases operation

/-- A span is of the tree of the context that a child is started through, if it is started through
one. -/
def Board.Native (through : Option String) (p : SpanRef) (b : Board) : Prop :=
  ∀ caller ∈ through, ∃ c, b.context? caller = some c ∧ p.tree = c.root.tree

/-- The tree that a step is addressed to. What is refused before it comes to a tree is addressed to
none: a name that stands for nothing, a value that does not fit, the span of another request. -/
def Step.tree? (w : World Board) : Step → Option Nat
  | .start .. => some w.trees.length
  | .clone _ source => (w.app.context? source).map (·.root.tree)
  | .child through parent _ _ =>
    match w.app.span? parent, through with
    | some p, none => some p.tree
    | some p, some caller =>
      ((w.app.context? caller).filter (p.tree = ·.root.tree)).map (·.root.tree)
    | none, _ => none
  | .change span _ | .finish span => (w.app.span? span).map (·.tree)
  | x => x.setting?.bind fun (name, _) => (w.app.context? name).map (·.root.tree)

namespace Step

variable {w : World Board} {x : Step} {name : String}

theorem tree?_of_setting? {setting : Context.Setting} (sets : x.setting? = some (name, setting)) :
    x.tree? w = (w.app.context? name).map (·.root.tree) := by
  unfold setting? at sets
  split at sets <;> cases sets <;> rfl

theorem isPause_of_setting? {setting : Context.Setting}
    (sets : x.setting? = some (name, setting)) : x.isPause = false := by
  unfold setting? at sets
  split at sets <;> cases sets <;> rfl

theorem native_of_tree? {through : Option String} {parent as_ : String} {k : Nat}
    (addressed : (child through parent name as_).tree? w = some k) :
    ∃ p, w.app.span? parent = some p ∧ p.tree = k ∧ w.app.Native through p := by
  cases known : w.app.span? parent with
  | none => simp [tree?, known] at addressed
  | some p =>
    simp only [tree?, known] at addressed
    cases through with
    | none => exact ⟨p, rfl, Option.some.inj addressed, nofun⟩
    | some caller =>
      obtain ⟨c, native, here⟩ := Option.map_eq_some_iff.1 addressed
      obtain ⟨bound, same⟩ := Option.filter_eq_some_iff.1 native
      have same : p.tree = c.root.tree := of_decide_eq_true same
      refine ⟨p, rfl, same.trans here, ?_⟩
      rintro _ ⟨⟩
      exact ⟨c, bound, same⟩

theorem tree?_of_native {through : Option String} {parent as_ : String} {p : SpanRef}
    (known : w.app.span? parent = some p)
    (native : w.app.Native through p) :
    (child through parent name as_).tree? w = some p.tree := by
  cases through with
  | none => simp [tree?, known]
  | some caller =>
    obtain ⟨c, bound, same⟩ := native caller rfl
    simp [tree?, known, bound, same]

end Step

/-- What an operation makes of a world. -/
inductive Becomes (w : World Board) : Step → World Board → Prop
  | start (context label : String) (inbound : Option String) (c : Context)
      (begun : c = .fresh ⟨label, "<uuid:" ++ label ++ ">"⟩ inbound w) :
      Becomes w (.start context label inbound)
        ((Effect.app (·.bind context c)).apply
          ((Effect.plant label c.traceId Context.rootName).apply w))
  | clone (copy : String) {source : String} {c : Context}
      (known : w.app.context? source = some c) :
      Becomes w (.clone copy source) ((Effect.app (·.bind copy c)).apply w)
  | set {x : Step} {name : String} {setting : Context.Setting} {c : Context}
      (sets : x.setting? = some (name, setting)) (known : w.app.context? name = some c) :
      Becomes w x
        ((Effect.app (·.bind name (setting.put c))).apply (w.noted c.root setting.notes))
  | child {through : Option String} {parent name as_ : String} {p s : SpanRef}
      (known : w.app.span? parent = some p)
      (native : w.app.Native through p)
      (started : w.child p = .ok s) :
      Becomes w (.child through parent name as_)
        ((Effect.app (·.bindSpan as_ s)).apply ((Effect.branch p name).apply w))
  | barren {through : Option String} {parent name as_ : String} {p : SpanRef} {e : TraceError}
      (known : w.app.span? parent = some p)
      (native : w.app.Native through p)
      (finished : w.child p = .error e) :
      Becomes w (.child through parent name as_) ((Effect.branch p name).apply w)
  | change {span : String} {s : SpanRef} (known : w.app.span? span = some s)
      (change : Span.Change) : Becomes w (.change span change) ((Effect.touch s change).apply w)
  | finish {span : String} {s : SpanRef} (known : w.app.span? span = some s) :
      Becomes w (.finish span) ((Effect.finish s).apply w)
  | sleep (length : Duration) : Becomes w (.sleep length) (w.slept (length.min Play.longest))
  | idle {x : Step} (operation : x.isOperation) (moves : x.isPause = false)
      (nobody : x.tree? w = none) : Becomes w x w

namespace Play

variable {w : World Board} {name : String}

theorem run_board (f : Board → Play Played) : (board >>= f).run w = (f w.app).run w := rfl

theorem run_withContext_of_some {c : Context} (known : w.app.context? name = some c)
    (f : Context → Play Played) : (withContext name f).run w = (f c).run w := by
  rw [withContext, run_board, known]

theorem run_withContext_of_none (unknown : w.app.context? name = none)
    (f : Context → Play Played) : (withContext name f).run w = .done (.went .unknown) w := by
  rw [withContext, run_board, unknown]
  rfl

theorem run_withSpan_of_some {s : SpanRef} (known : w.app.span? name = some s)
    (f : SpanRef → Play Played) : (withSpan name f).run w = (f s).run w := by
  rw [withSpan, run_board, known]

theorem run_withSpan_of_none (unknown : w.app.span? name = none) (f : SpanRef → Play Played) :
    (withSpan name f).run w = .done (.went .unknown) w := by
  rw [withSpan, run_board, unknown]
  rfl

/-- A span of another request is refused as a parent before anything happens. -/
theorem run_child_foreign {caller parent : String} {c : Context} {p : SpanRef}
    (known : w.app.span? parent = some p) (bound : w.app.context? caller = some c)
    (foreign : p.tree ≠ c.root.tree) (s : Setting) (name as_ : String) :
    (step s (.child (some caller) parent name as_)).run w =
      .done (.went (.noChild (.foreignSpan p.id c.traceId))) w := by
  refine (run_withSpan_of_some known _).trans ((run_withContext_of_some bound _).trans ?_)
  simp only [Context.startChild, if_neg foreign]
  rfl

theorem step_of_setting? {x : Step} {setting : Context.Setting}
    (sets : x.setting? = some (name, setting)) (s : Setting) :
    step s x = replace name setting.set := by
  unfold Step.setting? at sets
  split at sets <;> cases sets <;> rfl

/-- A span of the same request gets its child if it is open. -/
theorem run_child_native {through : Option String} {parent : String} {p : SpanRef}
    (known : w.app.span? parent = some p)
    (native : w.app.Native through p)
    (s : Setting) (name as_ : String) :
    (step s (.child through parent name as_)).run w =
      match w.child p with
      | .ok span => .done
        (.went (.child span.id (((Effect.branch p name).apply w).traceOf span)))
        ((Effect.app (·.bindSpan as_ span)).apply ((Effect.branch p name).apply w))
      | .error e => .done (.went (.noChild e)) ((Effect.branch p name).apply w) := by
  refine (run_withSpan_of_some known _).trans ?_
  cases through with
  | none =>
    dsimp only [Activity.startChild, bind_eq, pure_eq, Activity.bind, perform, Activity.run]
    cases w.child p <;> rfl
  | some caller =>
    obtain ⟨c, bound, same⟩ := native caller rfl
    refine (run_withContext_of_some bound _).trans ?_
    simp only [Context.startChild, if_pos same]
    dsimp only [Activity.startChild, bind_eq, pure_eq, Activity.bind, perform, Activity.run]
    cases w.child p <;> rfl

/-- A step that is addressed to no tree changes nothing. -/
theorem run_of_tree?_eq_none {x : Step} (operation : x.isOperation) (moves : x.isPause = false)
    (nobody : x.tree? w = none) (s : Setting) :
    ∃ finding, (step s x).run w = .done (.went finding) w := by
  cases Step.operates_of_isOperation operation with
  | start => cases nobody
  | sleep => cases moves
  | set sets =>
    rw [Step.tree?_of_setting? sets, Option.map_eq_none_iff] at nobody
    rw [step_of_setting? sets]
    exact ⟨.unknown, run_withContext_of_none nobody _⟩
  | badRoute context why => exact ⟨.refused why, rfl⟩
  | badIdentity context why => exact ⟨.refused why, rfl⟩
  | clone => exact ⟨.unknown, run_withContext_of_none (Option.map_eq_none_iff.1 nobody) _⟩
  | change => exact ⟨.unknown, run_withSpan_of_none (Option.map_eq_none_iff.1 nobody) _⟩
  | finish => exact ⟨.unknown, run_withSpan_of_none (Option.map_eq_none_iff.1 nobody) _⟩
  | child through parent name as_ =>
    cases known : w.app.span? parent with
    | none => exact ⟨.unknown, run_withSpan_of_none known _⟩
    | some p =>
      cases through with
      | none => simp [Step.tree?, known] at nobody
      | some caller =>
        cases bound : w.app.context? caller with
        | none =>
          exact ⟨.unknown, (run_withSpan_of_some known _).trans (run_withContext_of_none bound _)⟩
        | some c =>
          have foreign : p.tree ≠ c.root.tree := by
            intro same
            simp [Step.tree?, known, bound, same] at nobody
          exact ⟨_, run_child_foreign known bound foreign s name as_⟩

end Play

namespace Becomes

open Play

variable {w w' : World Board} {x : Step}

/-- Every operation makes something of a world. -/
theorem exists_of_isOperation (w : World Board) (operation : x.isOperation) :
    ∃ w', Becomes w x w' := by
  cases nobody : x.tree? w with
  | none =>
    cases pause : x.isPause with
    | false => exact ⟨w, .idle operation pause nobody⟩
    | true =>
      cases x with
      | sleep length => exact ⟨_, .sleep length⟩
      | _ => cases pause
  | some k =>
    cases Step.operates_of_isOperation operation with
    | start context label inbound => exact ⟨_, .start context label inbound _ rfl⟩
    | sleep length => exact ⟨_, .sleep length⟩
    | set sets =>
      rw [Step.tree?_of_setting? sets] at nobody
      obtain ⟨c, known, -⟩ := Option.map_eq_some_iff.1 nobody
      exact ⟨_, .set sets known⟩
    | badRoute | badIdentity => cases nobody
    | clone copy source =>
      obtain ⟨c, known, -⟩ := Option.map_eq_some_iff.1 nobody
      exact ⟨_, .clone copy known⟩
    | change span change =>
      obtain ⟨s, known, -⟩ := Option.map_eq_some_iff.1 nobody
      exact ⟨_, .change known change⟩
    | finish span =>
      obtain ⟨s, known, -⟩ := Option.map_eq_some_iff.1 nobody
      exact ⟨_, .finish known⟩
    | child through parent name as_ =>
      obtain ⟨p, known, -, native⟩ := Step.native_of_tree? nobody
      cases started : w.child p with
      | ok span => exact ⟨_, .child known native started⟩
      | error e => exact ⟨_, .barren known native started⟩

/-- It is what it makes of the world when it is played. -/
theorem run (becomes : Becomes w x w') (s : Setting) :
    ∃ finding, (step s x).run w = .done (.went finding) w' := by
  cases becomes with
  | start context label inbound c begun =>
    subst begun
    exact ⟨.ok, rfl⟩
  | clone copy known => exact ⟨.ok, run_withContext_of_some known _⟩
  | set sets known =>
    refine ⟨.ok, ?_⟩
    rw [step_of_setting? sets, replace, run_withContext_of_some known, bind_eq, run_bind,
      Context.Setting.run_set]
    rfl
  | @child _ _ name as_ _ _ known native started =>
    have played := run_child_native known native s name as_
    rw [started] at played
    exact ⟨_, played⟩
  | @barren _ _ name as_ _ _ known native finished =>
    have played := run_child_native known native s name as_
    rw [finished] at played
    exact ⟨_, played⟩
  | change known change => exact ⟨.ok, run_withSpan_of_some known _⟩
  | finish known => exact ⟨_, run_withSpan_of_some known _⟩
  | sleep length =>
    refine ⟨.ok, ?_⟩
    change ((pause length).bind fun _ => done (Played.went .ok)).run w = _
    rw [pause, run_bind, run_sleep]
    rfl
  | idle operation moves nobody => exact run_of_tree?_eq_none operation moves nobody s

end Becomes

namespace Play

variable {w w' : World Board} {x : Step}

/-- The world when an entry was made of what a step found. -/
def entered (s : Setting) (x : Step) (finding : Finding) (w : World Board) : World Board :=
  (Effect.app (·.keep s.handler ⟨x.name, w.now, finding⟩)).apply w

theorem run_steps_cons {s : Setting} {finding : Finding}
    (played : (step s x).run w = .done (.went finding) w') (rest : List Step) :
    (steps s (x :: rest)).run w = (steps s rest).run (entered s x finding w') := by
  rw [steps, bind_eq, run_bind, played]
  rfl

end Play

end Scenario

end Ingress
