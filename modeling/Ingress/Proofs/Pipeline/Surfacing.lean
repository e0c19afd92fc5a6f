import Ingress.Proofs.Downstream.LastAttempt
import Ingress.Proofs.Pipeline.Company

/-!
# Failed calls in answers

A handler that hands on the error of a failed call has its request answered from the last outcome of
the call alone: with the status of the last answer, if that is an error, and with the message of a
network failure, if it had a code. Earlier outcomes and labels make no difference to them.
-/

namespace Ingress

open Activity Effect

namespace Downstream

/-- What clients are told of a failed call by its last outcome. -/
structure Outcome.Surfaces (o : Outcome) (status : Nat) (messages : List String) : Prop where
  answered : ∀ r, o = .answered r → 400 ≤ r.status → r.status ≤ 599 →
    status = r.status ∧
      messages = [(Classification.standardMessage? r.status).getD "Internal Server Error"]
  network : ∀ code text, o = .network code text →
    status = 500 ∧ messages = [(code.map NetworkCode.message).getD "Internal Server Error"]

/-- The error of a call is the outcome of its last attempt. -/
theorem Call.course_run_failed {others : World ν → World ν → Prop} {policy : Retry.Policy}
    {parent : SpanRef} {request : Request} {w last : World ν} {ds : List (Deed ν)} {f : Failure}
    (course : Course others (run policy parent request) w ds (.done (.error (.failed f)) last)) :
    EndsWith policy request ds f.cause := by
  rcases course_run_last course with ⟨_, _, ⟨⟩, -⟩ | ⟨-, comes⟩
  obtain ⟨o, number, ends, same⟩ := comes _ _ rfl
  unfold settle at same
  split at same
  · cases same
  · cases same
    exact ends

end Downstream

namespace Failure

open Classification Downstream

variable {f g : Downstream.Failure}

theorem classify_downstream_surfaces (f : Downstream.Failure) :
    f.cause.Surfaces (downstream f).classify.status (downstream f).classify.messages := by
  constructor
  · intro r cause least most
    have error : isErrorStatus r.status := isErrorStatus_iff.2 ⟨least, most⟩
    simp [classify, root, ofRoot, ofDownstream, cause, Option.filter_some_pos error,
      suppliedMessage?, statusMessage, internalMessage]
  · intro code text cause
    cases code with
    | none =>
      simp [classify, root, ofRoot, ofDownstream, cause, suppliedMessage?, statusMessage,
        standardMessage?, internalMessage]
    | some code => simp [classify, root, ofRoot, ofDownstream, cause]

theorem kind_classify_downstream (f : Downstream.Failure) :
    (downstream f).classify.kind = .downstreamFailure := by
  change (ofDownstream f).kind = _
  unfold ofDownstream
  split <;> rfl

/-- Of a failed call nothing but its last outcome counts. -/
theorem classify_downstream_eq (same : g.cause = f.cause) :
    (downstream g).classify = (downstream f).classify := by
  have verdict : ofRoot (downstream g).root = ofRoot (downstream f).root := by
    change ofDownstream g = ofDownstream f
    unfold ofDownstream
    rw [same]
  unfold classify
  rw [verdict]
  rfl

end Failure

namespace Pipeline

theorem status_traced (c : Context) (r : Response) : (traced c r).status = r.status := by
  unfold traced
  split <;> rfl

theorem body_traced (c : Context) (r : Response) : (traced c r).body = r.body := by
  unfold traced
  split <;> rfl

/-- A failure of the handler is reported as it is told. -/
theorem ended_reports (stamp : String) (c : Context) (failure : Failure) :
    (ended stamp c (some (.failed failure)) : Activity ν Handled).Assures fun es _ =>
      .report (.requestFailed c.traceId failure.classify.kind failure.classify.status
        failure.display) ∈ es := by
  simp only [ended, answered, answer, answerFailure, advance, bind_eq, pure_eq, assures_bind,
    assures_report, assures_setAttribute, assures_setStatus, assures_done]
  intro _ _ _ _ _ _
  exact (close_assures c _ false).mono fun es _ _ => by simp

/-- The envelope that tells of a failure. -/
def failureEnvelope (c : Context) (stamp : String) (failure : Failure) : Envelope :=
  .format c.traceId c.path c.route failure.classify stamp

/-- A request whose handler fails is answered with the envelope of the failure, counted under its
status and reported with it. -/
theorem Phased.of_failed {others : World ν → World ν → Prop} {deadline : Deadline} {a : Arrival ν}
    {w : World ν} {ds : List (Deed ν)} {e : Ending ν Handled}
    (p : a.Phases deadline others w ds e) (course : Course others (a.handle deadline) w ds e)
    {failure : Failure}
    (failed : p.served = some (.failed failure)) :
    ∃ r duration, p.handled.response = some r ∧ r.status = failure.classify.status ∧
      r.body = (failureEnvelope p.context a.stamp failure).body.toUTF8 ∧
      samples (ds.map (·.effect)) =
        [⟨a.inbound.method, a.route.template, failure.classify.status, duration⟩] ∧
      .report (.requestFailed p.context.traceId failure.classify.kind failure.classify.status
        failure.display) ∈ ds.map (·.effect) := by
  have told : p.handled.response =
      some (traced p.context (failureResponse p.context a.stamp failure)) := by
    rw [p.response_eq, failed]
    rfl
  have status : (traced p.context (failureResponse p.context a.stamp failure)).status =
      failure.classify.status :=
    (status_traced _ _).trans (status_failureResponse p.context a.stamp failure)
  obtain ⟨h, _, same, duration, counted⟩ := course.assured (a.handle_assures deadline)
  obtain ⟨rfl, -⟩ := Ending.done.inj (p.ending_eq.symm.trans same)
  have closing := p.closing
  rw [failed] at closing
  obtain ⟨_, _, ⟨⟩, reported⟩ := closing.assured (ended_reports a.stamp p.context failure)
  refine ⟨_, duration, told, status, body_traced _ _, ?_, ?_⟩
  · rw [counted, Handled.status, told, Option.map_some, Option.getD_some, status]
  · obtain ⟨d, member, same⟩ := List.mem_map.1 reported
    have kept : d ∈ ds := p.deeds_eq ▸ List.mem_append_right _ (List.mem_append_right _ member)
    exact List.mem_map.2 ⟨d, kept, same⟩

/-- When a call has failed, its error is the outcome of its last attempt. A request whose handler ends
with that error, under whatever labels, is answered with an envelope made of this outcome: its status
is the one that is counted and reported, the report names the kind of failed calls, and its context
is the outermost label or else that of the route. Two calls with the same last outcome are told of
with the same status, kind and messages, whatever they are labelled with. -/
theorem handle_surfaces {company : World ν → World ν → Prop} {policy : Retry.Policy}
    {parent : SpanRef} {request : Downstream.Request} {w₀ w₁ : World ν} {ds₀ : List (Deed ν)}
    {f : Downstream.Failure}
    (call : Course company (Downstream.Call.run policy parent request) w₀ ds₀
      (.done (.error (.failed f)) w₁)) :
    Downstream.Call.EndsWith policy request ds₀ f.cause ∧
    (∀ (deadline : Deadline) (a : Arrival ν) (labels : List String)
        (others : World ν → World ν → Prop) (w : World ν) (ds : List (Deed ν))
        (e : Ending ν Handled), Course others (a.handle deadline) w ds e →
      Nonempty (a.Phases deadline others w ds e) ∧ ∀ p : a.Phases deadline others w ds e,
        p.served = some (.failed
          (labels.foldr .labelled (Downstream.CallError.failed f).toFailure)) →
        ∃ r duration, ∃ envelope : Envelope, p.handled.response = some r ∧
          r.status = envelope.code ∧ r.body = envelope.body.toUTF8 ∧
          samples (ds.map (·.effect)) =
            [⟨a.inbound.method, a.route.template, envelope.code, duration⟩] ∧
          (∃ text, .report (.requestFailed p.context.traceId .downstreamFailure envelope.code text)
            ∈ ds.map (·.effect)) ∧
          envelope.context = some (labels.head?.getD a.route.identity) ∧
          f.cause.Surfaces envelope.code envelope.messages) ∧
    ∀ (g : Downstream.Failure) (labels labels' : List String), g.cause = f.cause →
      let told := (labels.foldr Failure.labelled (.downstream f)).classify
      let told' := (labels'.foldr Failure.labelled (.downstream g)).classify
      told'.status = told.status ∧ told'.kind = told.kind ∧ told'.messages = told.messages := by
  refine ⟨Downstream.Call.course_run_failed call,
    fun deadline a labels others w ds e course => ?_, fun g labels labels' same => ?_⟩
  · refine ⟨nonempty_phased course, fun p failed => ?_⟩
    obtain ⟨received, -⟩ := course_opening p.opened
    have verdict :
        (labels.foldr .labelled (Downstream.CallError.failed f).toFailure).classify =
          { (Failure.downstream f).classify with context := labels.head? } :=
      Failure.classify_foldr rfl labels
    -- Of the labelled error nothing but its classification counts from here on.
    generalize labels.foldr .labelled (Downstream.CallError.failed f).toFailure = failure
      at failed verdict
    obtain ⟨r, duration, told, status, body, counted, reported⟩ := p.of_failed course failed
    refine ⟨r, duration, failureEnvelope p.context a.stamp failure, told, status, body, counted,
      ⟨failure.display, ?_⟩, ?_, ?_⟩
    · rw [congrArg Classification.kind verdict, Failure.kind_classify_downstream] at reported
      exact reported
    · change failure.classify.context.or (p.context.route.map Route.identity) = _
      rw [verdict, received.route]
      cases labels <;> rfl
    · have surfaces := Failure.classify_downstream_surfaces f
      change f.cause.Surfaces failure.classify.status failure.classify.messages
      rw [verdict]
      exact surfaces
  · rw [Failure.classify_foldr rfl, Failure.classify_foldr rfl,
      Failure.classify_downstream_eq same]
    exact ⟨rfl, rfl, rfl⟩

/-- A world in which another service answers with 503 and then with 404. -/
def answering : World Unit :=
  .start (.ofReplies [.after 1 (.answered (.new 503 .empty)), .after 1 (.answered (.new 404 .empty))])
    [] ()

/-- A request whose handler hands on the error of a call under two labels. -/
def relaying : Arrival Unit where
  names := ⟨"t", "trace"⟩
  stamp := ""
  route := ⟨"GET", "/cats/:id", "cats", "find_one", none⟩
  inbound := ⟨"GET", "/cats/1", [], .empty⟩
  handler := fun c _ =>
    (Downstream.Call.run .standard c.root (.new "GET" "http://owners/1")).bind fun
      | .ok _ => done (.ok (.ofJson 200 ""))
      | .error e => done (.error (["load cat", "load owner"].foldr .labelled e.toFailure))
  patience := none
  quiet := fun c => only_bind (Downstream.quiet_run .standard _ c.root) fun
    | .ok _ => trivial
    | .error _ => trivial

/-- The second of two answers is the one that clients are told of, under the outer label. -/
theorem handle_surfaces_second :
    ∃ h last r, ∃ envelope : Envelope, (relaying.handle (.new none)).run answering = .done h last ∧
      h.response = some r ∧ r.status = 404 ∧ r.body = envelope.body.toUTF8 ∧
      envelope.context = some "load cat" ∧ envelope.messages = ["Not Found"] := by
  -- The call as it goes under the root of the request.
  have called := course_run (fun w : World Unit => Eq.refl w)
    (Downstream.Call.run .standard ⟨0, 0, ⟨"t", 0⟩⟩ (.new "GET" "http://owners/1"))
    ((Effect.plant "t" "trace" "GET /cats/:id").apply answering)
  have alone := course_run (fun w : World Unit => Eq.refl w) (relaying.handle (.new none)) answering
  obtain ⟨-, surfaces, -⟩ := handle_surfaces
    (f := ⟨"GET", "http://owners/1", 2, .answered (.new 404 .empty)⟩) called
  obtain ⟨⟨p⟩, told⟩ := surfaces (.new none) relaying ["load cat", "load owner"] _ _ _ _ alone
  obtain ⟨-, opened⟩ := course_eq_iff.1 p.opened
  obtain ⟨-, serving⟩ := course_eq_iff.1 p.serving
  have served : p.served = some (.failed (["load cat", "load owner"].foldr .labelled
      (.downstream ⟨"GET", "http://owners/1", 2, .answered (.new 404 .empty)⟩))) := by
    have computed := congrArg (fun
      | .done c begun => match (relaying.serving (.new none) c).run begun with
        | .done served _ => served
        | _ => p.served
      | _ => p.served) opened
    dsimp only at computed
    rw [← serving] at computed
    exact computed
  obtain ⟨r, duration, envelope, response, status, body, counted, -, context, shown⟩ :=
    told p served
  obtain ⟨code, messages⟩ := shown.answered _ rfl (by decide) (by decide)
  exact ⟨p.handled, p.last, r, envelope, p.ending_eq, response, status.trans code, body, context,
    messages⟩

end Pipeline

end Ingress
