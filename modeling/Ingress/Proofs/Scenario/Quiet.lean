import Ingress.Proofs.Downstream.Effects
import Ingress.Proofs.Pipeline.Counting
import Ingress.Scenario.Play

/-!
# Scenarios count nothing themselves

Whatever steps a handler is written down with, none of its effects counts a request. So the requests
of a scenario are counted by the pipeline alone, each of them once.
-/

namespace Ingress

open Activity Effect

theorem Activity.quiet_world : (world : Activity ν (World ν)).Only CountsNothing :=
  fun _ => ⟨rfl, trivial⟩

namespace Scenario.Play

variable {name : String} {f : Context → Play Played} {g : SpanRef → Play Played}

theorem quiet_pause (length : Duration) : (pause length).Only CountsNothing :=
  only_sleep (p := CountsNothing) rfl (length.min longest)

theorem quiet_withContext (quiet : ∀ c, (f c).Only CountsNothing) :
    (withContext name f).Only CountsNothing := by
  refine only_bind (fun _ => ⟨rfl, trivial⟩) fun b => ?_
  split
  · exact quiet _
  · trivial

theorem quiet_withSpan (quiet : ∀ s, (g s).Only CountsNothing) :
    (withSpan name g).Only CountsNothing := by
  refine only_bind (fun _ => ⟨rfl, trivial⟩) fun b => ?_
  split
  · exact quiet _
  · trivial

theorem quiet_replace {h : Context → Play Context} (quiet : ∀ c, (h c).Only CountsNothing) :
    (replace name h).Only CountsNothing :=
  quiet_withContext fun c => only_bind (quiet c) fun _ _ => ⟨rfl, trivial⟩

theorem quiet_call (policy : Retry.Policy) (c : Context) (under : Option SpanRef)
    (step : CallStep) : (call policy c under step).Only CountsNothing := by
  unfold call
  dsimp only [Downstream.Client.under]
  split
  · refine only_bind (Downstream.quiet_run policy step.request _) fun result => ?_
    split <;> trivial
  · cases under with
    | none =>
      refine only_bind (Downstream.quiet_send step.request _) fun result => ?_
      split <;> trivial
    | some span =>
      dsimp only
      split
      · simp only [bind_eq, pure_eq, Activity.bind]
        refine only_bind (Downstream.quiet_send step.request _) fun result => ?_
        split <;> trivial
      · trivial

/-- A step without branches counts nothing. -/
theorem quiet_simple (s : Setting) (step : Step) : (simple s step).Only CountsNothing := by
  cases step with
  | start context label inbound =>
    exact fun _ => ⟨rfl, fun _ => ⟨rfl, fun _ => ⟨rfl, trivial⟩⟩⟩
  | clone context source => exact quiet_withContext fun c _ => ⟨rfl, trivial⟩
  | method context value => exact quiet_replace fun c _ => ⟨rfl, trivial⟩
  | path context value => exact quiet_replace fun c _ => ⟨rfl, trivial⟩
  | route context value =>
    cases value with
    | error why => trivial
    | ok value => exact quiet_replace fun c _ => ⟨rfl, fun _ => ⟨rfl, trivial⟩⟩
  | identity context value =>
    cases value with
    | error why => trivial
    | ok value => exact quiet_replace fun c _ => ⟨rfl, trivial⟩
  | authorization context value => exact quiet_replace fun c => trivial
  | deadline context granted => exact quiet_replace fun c => trivial
  | inspect context role => exact quiet_withContext fun c _ => ⟨rfl, trivial⟩
  | child context parent name as_ =>
    refine quiet_withSpan fun p => ?_
    cases context with
    | none =>
      refine only_bind (fun _ => ⟨rfl, trivial⟩) fun started => ?_
      cases started with
      | error e => trivial
      | ok span => exact fun _ => ⟨rfl, fun _ => ⟨rfl, trivial⟩⟩
    | some context =>
      refine quiet_withContext fun c => only_bind ?_ fun started => ?_
      · unfold Context.startChild
        split
        · exact fun _ => ⟨rfl, trivial⟩
        · trivial
      · cases started with
        | error e => trivial
        | ok span => exact fun _ => ⟨rfl, fun _ => ⟨rfl, trivial⟩⟩
  | change span change => exact quiet_withSpan fun s _ => ⟨rfl, trivial⟩
  | finish span => exact quiet_withSpan fun s _ => ⟨rfl, trivial⟩
  | look span key =>
    refine quiet_withSpan fun s => only_bind (fun _ => ⟨rfl, trivial⟩) fun w => ?_
    split <;> trivial
  | tree context => exact quiet_withContext fun c _ => ⟨rfl, trivial⟩
  | sameTrace a b => exact quiet_withSpan fun _ => quiet_withSpan fun _ => trivial
  | headers context existing =>
    exact quiet_withContext fun c => only_bind (Downstream.quiet_propagate c _) fun _ => trivial
  | call step =>
    refine quiet_withContext fun c => ?_
    split
    · exact quiet_call _ c none step
    · exact quiet_withSpan fun span => quiet_call _ c (some span) step
  | race context work own default =>
    refine quiet_withContext fun c => only_bind ?_ fun result => ?_
    · refine only_bind (only_within (quiet_pause work) rfl _) fun value => ?_
      split
      · trivial
      · exact fun _ => ⟨rfl, trivial⟩
    · split <;> trivial
  | sleep length => exact only_bind (quiet_pause length) fun _ => trivial
  | validate _ | fail _ | respond _ | panic _ | pending | parallel _ | orFail _ => trivial

mutual

theorem quiet_step (s : Setting) : (x : Step) → (step s x).Only CountsNothing
  | .parallel branches => by
    refine only_bind (only_all (quiet_together s branches)) fun ends => ?_
    split <;> trivial
  | .orFail inner => by
    refine only_bind (quiet_step s inner) fun played => ?_
    split
    · trivial
    · split <;> trivial
  | .start .. | .clone .. | .method .. | .path .. | .route .. | .identity .. | .authorization ..
  | .deadline .. | .inspect .. | .child .. | .change .. | .finish .. | .look .. | .tree ..
  | .sameTrace .. | .headers .. | .call .. | .race .. | .sleep .. | .validate .. | .fail ..
  | .respond .. | .panic .. | .pending => quiet_simple s _

/-- Steps one after the other count nothing. -/
theorem quiet_steps (s : Setting) : (xs : List Step) → (steps s xs).Only CountsNothing
  | [] => trivial
  | x :: rest => by
    refine only_bind (quiet_step s x) fun played => ?_
    split
    · trivial
    · exact only_bind (fun _ => ⟨rfl, fun _ => ⟨rfl, trivial⟩⟩) fun _ => quiet_steps s rest

theorem quiet_together (s : Setting) :
    (branches : List (List Step)) → ∀ a ∈ together s branches, a.Only CountsNothing
  | [] => List.forall_mem_nil _
  | xs :: rest => List.forall_mem_cons.2 ⟨quiet_steps s xs, quiet_together s rest⟩

end

end Scenario.Play

namespace Scenario

/-- The request of a visit on its way. -/
def Visit.arrival (policy : Retry.Policy) (stamp : String) (v : Visit) :
    Pipeline.Arrival Board where
  names := ⟨v.label, "<uuid:" ++ v.label ++ ">"⟩
  stamp := stamp
  route := v.route
  inbound := v.inbound
  handler := fun c request => do
    Play.modify (·.bind v.name c)
    let result ← Play.steps ⟨v.name, policy, request.body⟩ v.handler
    pure (result.getD (.ok plainAnswer))
  patience := v.patience
  quiet := fun _ => only_bind (fun _ => ⟨rfl, trivial⟩) fun _ =>
    only_bind (Play.quiet_steps _ v.handler) fun _ => trivial

/-- The end of a visit: the steps after the request, and what became of it. -/
def Visit.leave (policy : Retry.Policy) (before : World Board) (handled : Pipeline.Handled)
    (v : Visit) : Play Visited := do
  let later ← Activity.world
  match v.after with
  | some steps => do
    let _ ← Play.steps ⟨afterwards v.name, policy, v.inbound.body⟩ steps
    pure ()
  | none => pure ()
  pure ⟨v.name, handled.context, handled.response, later.now - before.now⟩

theorem visit_eq (deadline : Pipeline.Deadline) (policy : Retry.Policy) (stamp : String)
    (v : Visit) :
    visit deadline policy stamp v =
      (Play.pause v.start).bind fun _ => (Activity.world).bind fun before =>
        ((v.arrival policy stamp).handle deadline).bind fun handled =>
          v.leave policy before handled := rfl

/-- After its request a visit counts nothing more, and the response is told as it is. -/
theorem course_leave {others : World Board → World Board → Prop} {policy : Retry.Policy}
    {before w last : World Board} {handled : Pipeline.Handled} {v : Visit}
    {ds : List (Deed Board)} {visited : Visited}
    (course : Course others (v.leave policy before handled) w ds (.done visited last)) :
    samples (ds.map (·.effect)) = [] ∧ visited.response = handled.response := by
  unfold Visit.leave at course
  obtain ⟨later, middle, ds₁, rest, rfl, looked, course⟩ := course_bind_done course
  have nothing := samples_course quiet_world looked
  dsimp only at course
  generalize v.after = after at course
  cases after with
  | none =>
    cases course
    exact ⟨by simp [nothing], rfl⟩
  | some steps =>
    obtain ⟨_, _, ds₂, ds₃, rfl, played, ended⟩ := course_bind_done course
    have nothing' := samples_course (Play.quiet_steps _ steps) played
    cases ended
    exact ⟨by simp [nothing, nothing'], rfl⟩

/-- A visit that comes to an end has counted its request once, under the status that is told of
it. -/
theorem samples_visit {others : World Board → World Board → Prop} {deadline : Pipeline.Deadline}
    {policy : Retry.Policy} {stamp : String} {v : Visit} {w last : World Board}
    {ds : List (Deed Board)} {visited : Visited}
    (course : Course others (visit deadline policy stamp v) w ds (.done visited last)) :
    ∃ duration, samples (ds.map (·.effect)) =
      [⟨v.inbound.method, v.route.template,
        (visited.response.map (·.status)).getD Pipeline.closedStatus, duration⟩] := by
  rw [visit_eq] at course
  obtain ⟨_, _, ds₁, _, rfl, slept, course⟩ := course_bind_done course
  obtain ⟨before, _, ds₂, _, rfl, looked, course⟩ := course_bind_done course
  obtain ⟨handled, _, ds₃, ds₄, rfl, handling, left⟩ := course_bind_done course
  obtain ⟨_, _, ⟨⟩, duration, counted⟩ :=
    handling.assured ((v.arrival policy stamp).handle_assures deadline)
  obtain ⟨nothing, same⟩ := course_leave left
  have nothing₁ := samples_course (Play.quiet_pause v.start) slept
  have nothing₂ := samples_course quiet_world looked
  refine ⟨duration, ?_⟩
  rw [same]
  simpa [nothing, nothing₁, nothing₂, Pipeline.Handled.status, Visit.arrival] using counted

end Scenario

end Ingress
