import Ingress.Proofs.Pipeline.Company
import Mathlib.Data.List.Chain

/-!
# Stages of a request

Every passage from one stage to another leads further, so that no stage is visited twice on any way
through the stages. Handling a request goes one of these ways, from the first stage to the last, and
says so at each passage.
-/

namespace Ingress

/-- The passage from one stage to another that an effect reports. -/
def Effect.passage? : Effect ν → Option (Pipeline.Stage × Pipeline.Stage)
  | report (.stage here next) => some (here, next)
  | _ => none

/-- The passages that effects report, in order. -/
def Effect.passages (effects : List (Effect ν)) : List (Pipeline.Stage × Pipeline.Stage) :=
  effects.filterMap passage?

/-- The effect reports no passage. -/
def Effect.PassesNothing (effect : Effect ν) : Prop := effect.passage? = none

namespace Effect

@[simp] theorem passages_nil : passages ([] : List (Effect ν)) = [] := rfl

@[simp] theorem passages_cons (e : Effect ν) (es : List (Effect ν)) :
    passages (e :: es) = e.passage?.toList ++ passages es := by
  unfold passages
  cases found : e.passage? <;> simp [found]

@[simp] theorem passages_append (es fs : List (Effect ν)) :
    passages (es ++ fs) = passages es ++ passages fs := List.filterMap_append

theorem passages_eq_nil {es : List (Effect ν)} (nothing : ∀ e ∈ es, e.PassesNothing) :
    passages es = [] := List.filterMap_eq_nil_iff.2 nothing

end Effect

namespace Pipeline

open Activity Effect

namespace Stage

/-- How far along a stage is. -/
def rank : Stage → Nat
  | received => 0
  | traced => 1
  | executing => 2
  | completed | timedOut | failed => 3
  | classified => 4
  | responded => 5
  | spanClosed => 6

/-- Whether the stage says how the handler ended. -/
def isOutcome : Stage → Bool
  | completed | timedOut | failed => true
  | _ => false

theorem rank_lt_of_canAdvance {s t : Stage} (allowed : s.canAdvance t) : s.rank < t.rank := by
  cases s <;> cases t <;> first | decide | exact nomatch allowed

theorem classified_or_spanClosed_of_canAdvance {failure next : Stage}
    (isFailure : failure = failed ∨ failure = timedOut) (allowed : failure.canAdvance next) :
    next = classified ∨ next = spanClosed := by
  obtain rfl | rfl := isFailure <;> cases next <;> simp_all [canAdvance]

/-- A way through the stages, each passage of which is allowed. -/
def IsWay (way : List Stage) : Prop := way.IsChain fun s t => s.canAdvance t

instance (way : List Stage) : Decidable (IsWay way) :=
  inferInstanceAs (Decidable (way.IsChain fun s t => s.canAdvance t))

theorem IsWay.nodup {way : List Stage} (isWay : IsWay way) : way.Nodup := by
  have further : (way.map rank).IsChain (· < ·) :=
    (List.isChain_map rank).2 (isWay.imp fun _ _ => rank_lt_of_canAdvance)
  have apart : (way.map rank).Nodup :=
    (List.isChain_iff_pairwise.1 further).imp Nat.ne_of_lt
  exact List.Pairwise.of_map rank (fun _ _ => mt (congrArg rank)) apart

/-- A failure is classified before there is a response to it. -/
theorem IsWay.classified_mem {failure : Stage} (isFailure : failure = failed ∨ failure = timedOut)
    {before between after : List Stage}
    (isWay : IsWay (before ++ failure :: (between ++ responded :: after))) :
    classified ∈ between := by
  have rest : IsWay (failure :: (between ++ responded :: after)) := isWay.right_of_append
  cases between with
  | nil =>
    have allowed := (List.isChain_cons_cons.1 rest).1
    obtain ⟨⟨⟩⟩ | ⟨⟨⟩⟩ := classified_or_spanClosed_of_canAdvance isFailure allowed
  | cons next between =>
    obtain ⟨allowed, rest⟩ := List.isChain_cons_cons.1 rest
    obtain rfl | rfl := classified_or_spanClosed_of_canAdvance isFailure allowed
    · exact List.mem_cons_self
    · -- Nothing follows the last stage, but the response does.
      cases between <;> exact nomatch (List.isChain_cons_cons.1 rest).1

end Stage

/-- The stage that says how a handler ended. -/
def Result.outcome : Result → Stage
  | .responded _ => .completed
  | .failed _ | .panicked _ => .failed
  | .timedOut _ _ => .timedOut

/-- The stages from the end of the handler to the response. -/
def Stage.conclusion : Stage → List Stage
  | completed => [completed, responded]
  | failure => [failure, classified, responded]

/-- The stages of a request that an outcome leads to; there are none without an outcome. -/
def concluded (outcome : Option Stage) : List Stage := (outcome.map Stage.conclusion).getD []

/-- The stages of a request before it is closed, by its outcome. -/
def visited (outcome : Option Stage) : List Stage :=
  [.received, .traced, .executing] ++ concluded outcome

/-- From each stage to the next. -/
def passagesOf (stages : List Stage) : List (Stage × Stage) := stages.zip stages.tail

theorem passagesOf_concat (here next : Stage) (rest : List Stage) :
    passagesOf (here :: (rest ++ [next])) =
      passagesOf (here :: rest) ++ [(rest.getLastD here, next)] := by
  induction rest generalizing here with
  | nil => rfl
  | cons s rest ih =>
    rw [List.getLastD_cons]
    exact congrArg ((here, s) :: ·) (ih s)

theorem Stage.IsWay.canAdvance_of_mem {way : List Stage} (isWay : Stage.IsWay way) :
    ∀ passage ∈ passagesOf way, passage.1.canAdvance passage.2 := by
  induction way with
  | nil => exact nofun
  | cons here rest ih =>
    cases rest with
    | nil => exact nofun
    | cons next rest =>
      obtain ⟨allowed, isWay⟩ := List.isChain_cons_cons.1 isWay
      exact List.forall_mem_cons.2 ⟨allowed, ih isWay⟩

theorem opening_passages (deadline : Deadline) (names : Names) (route : Route) (request : Inbound) :
    (opening deadline names route request : Activity ν Context).Assures fun es _ =>
      passages es = passagesOf [.received, .traced, .executing] := by
  simp only [opening, receive, bind_eq, pure_eq, assures_bind]
  refine (inboundTrace_reports request.headers).mono fun es _ reports => ?_
  have quiet : passages es = [] := passages_eq_nil fun e member => reports e member ▸ rfl
  simp [Context.start, Activity.plant, perform, Assures, assures_bind, Context.withMethod,
    Context.withPath, Context.withRoute, advance, quiet, passage?, passagesOf]

theorem answer_passages (c : Context) (stamp : String) (result : Result) :
    (answer c stamp result : Activity ν _).Assures fun es answer =>
      result.outcome.conclusion = answer.2 ++ [.responded] ∧
        passages es = passagesOf (.executing :: answer.2) := by
  cases result <;>
    simp [answer, answerFailure, advance, assures_bind, passage?, passagesOf, Result.outcome,
      Stage.conclusion]

theorem close_passages (c : Context) (status : Nat) (cancelled : Bool) :
    (close c status cancelled : Activity ν Unit).Assures fun es _ => passages es = [] := by
  simp [close, assures_bind, passage?]

/-- The end of a request passes through the stages that its outcome leads to, and says so. -/
theorem ended_passages (stamp : String) (c : Context) (served : Option Result) :
    (ended stamp c served : Activity ν Handled).Assures fun es h =>
      h.stages = visited (served.map Result.outcome) ++ [.spanClosed] ∧
        passages es = passagesOf (.executing :: concluded (served.map Result.outcome)) := by
  cases served with
  | some result =>
    simp only [ended, answered, advance, bind_eq, pure_eq, assures_bind, assures_report,
      assures_done]
    refine (answer_passages c stamp result).mono fun es answer told _ => ?_
    obtain ⟨stages, said⟩ := told
    refine (close_passages c _ false).mono fun es' _ quiet => ⟨?_, ?_⟩
    · simp [visited, concluded, stages]
    · simp [concluded, stages, said, quiet, passage?, passagesOf_concat]
  | none =>
    simp only [ended, abandoned, bind_eq, pure_eq, assures_bind, assures_report, assures_done]
    intro _
    refine (close_passages c closedStatus true).mono fun es _ quiet => ⟨rfl, ?_⟩
    simp [concluded, quiet, passage?, passagesOf]

/-- What the stages of a request are like: they go a way from the first to the last. If the caller
stayed, one of them is the outcome, there is a response after it, and failures are classified. -/
structure Progress (outcome : Option Stage) (stages : List Stage) : Prop where
  begins : [.received, .traced, .executing] <+: stages
  isWay : Stage.IsWay stages
  closes : ∃ before, stages = before ++ [.spanClosed] ∧ .spanClosed ∉ before
  cancelled : outcome = none → stages = [.received, .traced, .executing, .spanClosed]
  decided : ∀ s ∈ outcome, stages.filter (·.isOutcome) = [s]
  responded : ∀ s ∈ outcome, [s, .responded].Sublist stages
  classified : ∀ s ∈ outcome, (.classified ∈ stages ↔ .timedOut ∈ stages ∨ .failed ∈ stages)

theorem isOutcome_outcome (result : Result) : result.outcome.isOutcome := by cases result <;> rfl

theorem progress_visited {outcome : Option Stage} (isOutcome : ∀ s ∈ outcome, s.isOutcome) :
    Progress outcome (visited outcome ++ [.spanClosed]) := by
  cases outcome with
  | none =>
    exact ⟨by decide, by decide, ⟨_, rfl, by decide⟩, fun _ => rfl, nofun, nofun, nofun⟩
  | some s =>
    refine ⟨⟨_, rfl⟩, ?_, ⟨_, rfl, ?_⟩, nofun, ?_, ?_, ?_⟩
    all_goals
      cases s with
      | completed | timedOut | failed => decide
      | _ => exact nomatch isOutcome _ rfl

namespace Phased

section

variable {others : World ν → World ν → Prop} {before : Activity ν Context}
  {serve : Context → Activity ν (Option Result)} {stamp : String} {w : World ν}
  {ds : List (Deed ν)} {e : Ending ν Handled} (p : Phased others before serve stamp w ds e)

/-- The effects of handling a request that are not those of its handler's part. -/
def own : List (Effect ν) := (p.early ++ p.late).map (·.effect)

theorem stages_eq :
    p.handled.stages = visited (p.served.map Result.outcome) ++ [.spanClosed] := by
  obtain ⟨_, _, ⟨⟩, stages, -⟩ := p.closing.assured (ended_passages stamp p.context p.served)
  exact stages

theorem progress : Progress (p.served.map Result.outcome) p.handled.stages := by
  rw [p.stages_eq]
  refine progress_visited fun s member => ?_
  obtain ⟨result, -, rfl⟩ := Option.map_eq_some_iff.1 member
  exact isOutcome_outcome result

end

section

variable {others : World ν → World ν → Prop} {deadline : Deadline} {names : Names}
  {stamp : String} {route : Route} {request : Inbound} {handler : Handler ν}
  {patience : Option Duration} {w : World ν} {ds : List (Deed ν)} {e : Ending ν Handled}
  (p : Phased others (opening deadline names route request)
    (fun c => withinOption patience (execute deadline route request handler c)) stamp w ds e)

include p

/-- Each passage from stage to stage is reported, except the last one. -/
theorem passages_own : passages p.own = passagesOf p.handled.stages.dropLast := by
  obtain ⟨_, _, -, opened⟩ := p.opened.assured (opening_passages deadline names route request)
  obtain ⟨_, _, -, -, closed⟩ := p.closing.assured (ended_passages stamp p.context p.served)
  rw [own, List.map_append, passages_append, opened, closed, p.stages_eq, List.dropLast_concat]
  rfl

/-- A caller that does not go away is told what the handler's part came to. -/
theorem isSome_served (waits : patience = none) : p.served.isSome := by
  have executed := execute_assures (only_true (handler p.context request)) trivial
    (fun _ => trivial) deadline route
  obtain ⟨_, _, ⟨⟩, -, served⟩ :=
    p.serving.assured (withinOption_assures executed trivial patience)
  exact served waits

/-- Unless the handler reports passages of its own there are no others. -/
theorem passages_deeds (quiet : ∀ c, (handler c request).Only PassesNothing) :
    passages (ds.map (·.effect)) = passages p.own := by
  have executed := execute_assures (quiet p.context) rfl (fun _ => rfl) deadline route
  obtain ⟨_, _, -, during, -⟩ :=
    p.serving.assured (withinOption_assures executed rfl patience)
  have whole := congrArg (List.map (·.effect)) p.deeds_eq
  rw [whole, own]
  simp only [List.map_append, passages_append, passages_eq_nil during, List.nil_append]

end

end Phased

/-- In every course of handling a request, whatever its handler does and whenever the caller goes
away, the stages are as they should be, and the passages that are reported are those from each stage
to the next, each of which is allowed; the last passage is not reported. On every way that begins
with the arrival of a request no stage comes twice, and no response to a failure comes before its
classification. -/
theorem stages_follow (deadline : Deadline) (names : Names) (stamp : String) (route : Route)
    (request : Inbound) (handler : Handler ν) (patience : Option Duration)
    (others : World ν → World ν → Prop) :
    (∀ w ds e,
      Course others (handle deadline names stamp route request handler patience) w ds e →
      ∃ p : Phased others (opening deadline names route request)
          (fun c => withinOption patience (execute deadline route request handler c)) stamp w ds e,
        Progress (p.served.map Result.outcome) p.handled.stages ∧
        (p.served = none ↔ p.handled.response = none) ∧ (patience = none → p.served.isSome) ∧
        passages p.own = passagesOf p.handled.stages.dropLast ∧
        (∀ passage ∈ passages p.own, passage.1.canAdvance passage.2) ∧
        ((∀ c, (handler c request).Only PassesNothing) →
          passages (ds.map (·.effect)) = passages p.own)) ∧
    ∀ way, way.head? = some .received → Stage.IsWay way →
      way.Nodup ∧ ∀ failure, failure = .failed ∨ failure = .timedOut →
        ∀ before between after, way = before ++ failure :: (between ++ .responded :: after) →
          .classified ∈ between := by
  constructor
  · intro w ds e course
    obtain ⟨p⟩ := nonempty_phased course
    have isWay : Stage.IsWay p.handled.stages.dropLast :=
      p.progress.isWay.prefix (List.dropLast_prefix _)
    refine ⟨p, p.progress, ?_, p.isSome_served, p.passages_own, ?_, p.passages_deeds⟩
    · rw [p.response_eq, Option.map_eq_none_iff]
    · rw [p.passages_own]
      exact isWay.canAdvance_of_mem
  · rintro way - isWay
    refine ⟨isWay.nodup, fun failure isFailure before between after split => ?_⟩
    exact Stage.IsWay.classified_mem isFailure (split ▸ isWay)

/-- A handler panics. Its request is answered, the failure is classified, and no stage of such a
request comes twice. -/
theorem stages_follow_panic :
    let route : Route := ⟨"GET", "/cats/:id", "cats", "find_one", none⟩
    let inbound : Inbound := ⟨"GET", "/cats/1", [], .empty⟩
    let w : World Unit := .start .alone [] ()
    (∃ h last,
      (handle (.new none) ⟨"a", "t"⟩ "" route inbound (fun _ _ => panic .other) none).run w =
        .done h last ∧ h.response ≠ none ∧ .classified ∈ h.stages) ∧
    [Stage.received, .traced, .executing, .failed, .classified, .responded, .spanClosed].Nodup := by
  intro route inbound w
  obtain ⟨follow, ways⟩ :=
    stages_follow (.new none) ⟨"a", "t"⟩ "" route inbound (fun _ _ => panic .other) none Eq
  obtain ⟨p, progress, abandoned, waits, -⟩ := follow w _ _ (course_run (fun _ => rfl) _ w)
  obtain ⟨result, served⟩ := Option.isSome_iff_exists.1 (waits rfl)
  have answered : p.handled.response ≠ none := by
    rw [Ne, ← abandoned, served]
    exact nofun
  have outcome : result.outcome ∈ p.served.map Result.outcome :=
    Option.mem_map_of_mem Result.outcome served
  have visited : result.outcome ∈ p.handled.stages :=
    (progress.responded _ outcome).subset List.mem_cons_self
  refine ⟨⟨p.handled, p.last, p.ending_eq, answered, (progress.classified _ outcome).2 ?_⟩, ?_⟩
  · rcases course_serving (served ▸ p.serving) with rfl | ⟨_, _, _, _, -, course, ended, rfl⟩
    · exact .inl visited
    · cases course
      cases ended
      exact .inr visited
  · exact (ways _ rfl (by decide)).1

end Pipeline

end Ingress
