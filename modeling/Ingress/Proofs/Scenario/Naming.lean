import Ingress.Proofs.Scenario.Operations

/-!
# What names stand for

The names on a board stand for contexts and spans that are there. A context keeps its root for as
long as its name is not given to another one, so a copy of a context stays with the request that it
was copied from.
-/

namespace Ingress

open Activity

theorem World.Addresses.apply {w : World ν} {h : SpanRef} (addresses : w.Addresses h)
    (e : Effect ν) : (e.apply w).Addresses h := by
  obtain ⟨o, origin, same⟩ := addresses
  exact ⟨o, origin?_apply e origin, same⟩

theorem World.app_noted (h : SpanRef) (changes : List Span.Change) (w : World ν) :
    (w.noted h changes).app = w.app := by
  induction changes generalizing w with
  | nil => rfl
  | cons change rest ih => exact ih _

namespace Scenario

namespace Board

variable {b : Board} {name other : String} {c : Context} {s : SpanRef}

/-- The span that was given a name as a child. -/
def named? (name : String) (b : Board) : Option SpanRef :=
  (b.spans.find? (·.1 = name)).map (·.2)

theorem span?_eq (name : String) (b : Board) :
    b.span? name = (b.named? name).or ((b.context? name).map (·.root)) := rfl

theorem context?_bind : (b.bind name c).context? other =
    if name = other then some c else b.context? other := by
  by_cases same : name = other <;> simp [bind, context?, same]

theorem context?_bind_of_ne (apart : name ≠ other) :
    (b.bind name c).context? other = b.context? other := by
  rw [context?_bind, if_neg apart]

theorem named?_bindSpan : (b.bindSpan name s).named? other =
    if name = other then some s else b.named? other := by
  by_cases same : name = other <;> simp [bindSpan, named?, same]

end Board

/-- A name stands for a context of the request with this root and this trace. -/
def StandsFor (name : String) (root : SpanRef) (trace : String) (w : World Board) : Prop :=
  ∃ c, w.app.context? name = some c ∧ c.root = root ∧ c.traceId = trace

namespace StandsFor

variable {name other trace : String} {root : SpanRef} {w : World Board}

theorem bind_self (name : String) (c : Context) (w : World Board) :
    StandsFor name c.root c.traceId ((Effect.app (·.bind name c)).apply w) :=
  ⟨c, Board.context?_bind.trans (if_pos rfl), rfl, rfl⟩

theorem bind_of_ne (stands : StandsFor name root trace w) (apart : other ≠ name) (c : Context) :
    StandsFor name root trace ((Effect.app (·.bind other c)).apply w) := by
  obtain ⟨d, bound, same⟩ := stands
  exact ⟨d, (Board.context?_bind_of_ne apart).trans bound, same⟩

theorem entered (stands : StandsFor name root trace w) (s : Setting) (x : Step)
    (finding : Finding) : StandsFor name root trace (Play.entered s x finding w) := stands

end StandsFor

/-- Every name stands for what is there: a context for a request with its trace, a span for itself. -/
structure Known (w : World Board) : Prop where
  contexts : ∀ name c, w.app.context? name = some c →
    w.Addresses c.root ∧ w.Carries c.root.tree c.traceId
  spans : ∀ name s, w.app.named? name = some s → w.Addresses s

namespace Known

variable {w : World Board} {c : Context} {s : SpanRef}

theorem start (network : Downstream.Network) (draws : List Nat) :
    Known (.start network draws .empty) where
  contexts _ _ bound := by cases bound
  spans _ _ bound := by cases bound

variable (known : Known w)
include known

theorem span? {name : String} (bound : w.app.span? name = some s) : w.Addresses s := by
  rw [Board.span?_eq] at bound
  cases child : w.app.named? name with
  | some s' =>
    rw [child] at bound
    obtain rfl := Option.some.inj bound
    exact known.spans name _ child
  | none =>
    rw [child, Option.none_or] at bound
    obtain ⟨c, context, rfl⟩ := Option.map_eq_some_iff.1 bound
    exact (known.contexts name c context).1

theorem apply {e : Effect Board} (same : (e.apply w).app = w.app) : Known (e.apply w) where
  contexts name c bound := by
    rw [same] at bound
    obtain ⟨addresses, carries⟩ := known.contexts name c bound
    exact ⟨addresses.apply e, carries.apply e⟩
  spans name s bound := by
    rw [same] at bound
    exact (known.spans name s bound).apply e

theorem noted (h : SpanRef) (changes : List Span.Change) : Known (w.noted h changes) := by
  induction changes generalizing w with
  | nil => exact known
  | cons change rest ih => exact ih (known.apply rfl)

theorem bind (name : String) (addresses : w.Addresses c.root)
    (carries : w.Carries c.root.tree c.traceId) :
    Known ((Effect.app (·.bind name c)).apply w) where
  contexts other c' bound := by
    rw [Effect.apply, Board.context?_bind] at bound
    split at bound
    · obtain rfl := Option.some.inj bound
      exact ⟨addresses, carries⟩
    · exact known.contexts other c' bound
  spans := known.spans

theorem bindSpan (name : String) (addresses : w.Addresses s) :
    Known ((Effect.app (·.bindSpan name s)).apply w) where
  contexts := known.contexts
  spans other s' bound := by
    rw [Effect.apply, Board.named?_bindSpan] at bound
    split at bound
    · obtain rfl := Option.some.inj bound
      exact addresses
    · exact known.spans other s' bound

end Known

namespace Becomes

variable {w w' : World Board} {x : Step}

/-- An operation leaves every name known. -/
theorem known (becomes : Becomes w x w') (known : Known w) : Known w' := by
  cases becomes with
  | idle => exact known
  | sleep length =>
    unfold World.slept
    split
    · exact known
    · exact ⟨known.contexts, known.spans⟩
  | start context label inbound c begun =>
    subst begun
    let trace := Context.traceOf inbound ("<uuid:" ++ label ++ ">")
    have given : (Effect.plant label trace Context.rootName).given? w =
        some ⟨w.trees.length, 0, ⟨label, 0⟩⟩ := rfl
    have planted : Known ((Effect.plant label trace Context.rootName).apply w) := known.apply rfl
    exact planted.bind context (Sound.given_new given).1 (World.carries_plant label trace _ w)
  | @clone copy source c bound =>
    obtain ⟨addresses, carries⟩ := known.contexts source c bound
    exact known.bind copy addresses carries
  | @set x name setting c sets bound =>
    have noted := known.noted c.root setting.notes
    have unchanged : (w.noted c.root setting.notes).app.context? name = some c := by
      rw [World.app_noted, bound]
    obtain ⟨addresses, carries⟩ := noted.contexts name c unchanged
    refine noted.bind name ?_ ?_
    · rwa [Context.Setting.root_put]
    · rwa [Context.Setting.root_put, Context.Setting.traceId_put]
  | @child through parent name as_ p s bound native started =>
    have given : (Effect.branch p name).given? w = some s := by
      rw [Effect.given?, started]
      rfl
    have grown : Known ((Effect.branch p name).apply w) := known.apply rfl
    exact grown.bindSpan as_ (Sound.given_new given).1
  | barren | change | finish => exact known.apply rfl

/-- A name stands for the same request until it is given to another context. -/
theorem standsFor (becomes : Becomes w x w') {name : String} {root : SpanRef} {trace : String}
    (unbound : x.binds? ≠ some name) (stands : StandsFor name root trace w) :
    StandsFor name root trace w' := by
  have apart {other : String} (binds : x.binds? = some other) : other ≠ name := by
    rintro rfl
    exact unbound binds
  cases becomes with
  | idle | barren | change | finish | child => exact stands
  | sleep length =>
    unfold World.slept
    split <;> exact stands
  | start context label inbound => exact stands.bind_of_ne (apart rfl) _
  | clone copy => exact stands.bind_of_ne (apart rfl) _
  | @set x other setting c sets known =>
    have noted : StandsFor name root trace (w.noted c.root setting.notes) := by
      obtain ⟨d, bound, same⟩ := stands
      exact ⟨d, by rw [World.app_noted, bound], same⟩
    by_cases same : other = name
    · subst same
      obtain ⟨d, bound, rfl, rfl⟩ := stands
      obtain rfl := Option.some.inj (known.symm.trans bound)
      rw [← setting.root_put c, ← setting.traceId_put c]
      exact .bind_self other _ _
    · exact noted.bind_of_ne same _

end Becomes

/-- What every operation keeps holds at the end of the operations, to which they come. -/
theorem exists_run_steps {P : World Board → Prop} {s : Setting} {xs : List Step} {w : World Board}
    (operations : ∀ x ∈ xs, x.isOperation)
    (kept : ∀ x ∈ xs, ∀ w w', Becomes w x w' → P w → P w')
    (entered : ∀ x finding w, P w → P (Play.entered s x finding w)) (holds : P w) :
    ∃ last, (Play.steps s xs).run w = .done none last ∧ P last := by
  induction xs generalizing w with
  | nil => exact ⟨w, rfl, holds⟩
  | cons x rest ih =>
    obtain ⟨operation, operations⟩ := List.forall_mem_cons.1 operations
    obtain ⟨keeps, kept⟩ := List.forall_mem_cons.1 kept
    obtain ⟨w', becomes⟩ := Becomes.exists_of_isOperation w operation
    obtain ⟨finding, played⟩ := becomes.run s
    rw [Play.run_steps_cons played]
    exact ih operations kept (entered x finding w' (keeps w w' becomes holds))

end Scenario

end Ingress
