import Ingress.Proofs.Downstream.Effects
import Ingress.Proofs.Pipeline.Company
import Ingress.Proofs.Span.Closing

/-!
# The end of a request

However a request ends, all spans of its tree are finished. The root span tells how it ended, unless
the handler finished it before: it has the status that the request was counted under, and the status
of an error if there was one.
-/

namespace Ingress.Pipeline

open Activity Effect

/-- The failure that a result amounts to, if it is one. -/
def Result.failure? : Result → Option Failure
  | .responded _ => none
  | .failed failure => some failure
  | .panicked cause => some (.fault cause.display)
  | .timedOut limit label => some (.timeout limit label)

/-- What is noted on the root span of a failure. -/
def noteFailure (failure : Failure) (s : Span) : Span :=
  { s with
    attributes := s.attributes.insert "error.kind" (.text failure.classify.kind.name)
    status := .error failure.classify.kind.name }

/-- What is noted on the root span of a result. -/
def Result.note (result : Result) (s : Span) : Span :=
  match result.failure? with
  | some failure => noteFailure failure s
  | none => s

/-- What is noted on the root span when the request is closed, apart from the instant. -/
def noteEnd (status : Nat) (cancelled : Bool) (s : Span) : Span :=
  { s with
    attributes := s.attributes.insert "http.status_code" (.ofNat status)
    status := if cancelled then .error "cancelled" else if s.status.isError then s.status else .ok }

section Root

variable {c : Context} {w : World ν} {s : Span} {ds : List (Deed ν)}

theorem course_answerFailure {stamp : String} {here : Stage} {failure : Failure}
    {e : Ending ν Response}
    (course : Course (Elsewhere c.root) (answerFailure c stamp here failure) w ds e)
    (present : w.span? c.root = some s) (running : s.isFinished = false) :
    ∃ response last, e = .done response last ∧
      last.span? c.root = some (noteFailure failure s) := by
  obtain ⟨_, _, rfl, present, course⟩ := course_spare course trivial present
  obtain ⟨_, _, rfl, present, course⟩ := course_spare course trivial present
  obtain ⟨_, _, rfl, present, course⟩ := course_spare course trivial present
  obtain ⟨_, _, rfl, noted, running, course⟩ := course_touch course present running
  obtain ⟨last, _, rfl, noted, -, course⟩ := course_touch course noted running
  obtain ⟨rfl, rfl⟩ := course_done_iff.1 course
  exact ⟨_, last, rfl, noted⟩

/-- A failure is noted on the root span before the request is closed. -/
theorem course_answer {stamp : String} {result : Result} {e : Ending ν (Response × List Stage)}
    (course : Course (Elsewhere c.root) (answer c stamp result) w ds e)
    (present : w.span? c.root = some s) (running : s.isFinished = false) :
    ∃ answer last, e = .done answer last ∧ last.span? c.root = some (result.note s) := by
  have failed {here : Stage} {failure : Failure} {stages : List Stage} {w : World ν}
      {ds : List (Deed ν)} {e : Ending ν (Response × List Stage)}
      (present : w.span? c.root = some s)
      (course : Course (Elsewhere c.root) ((answerFailure c stamp here failure).bind fun response =>
        done (response, stages)) w ds e) :
      ∃ answer last, e = .done answer last ∧
        last.span? c.root = some (noteFailure failure s) := by
    obtain ⟨response, middle, _, _, rfl, first, second⟩ :=
      course_bind_of_ends (fun _ _ first =>
        have ⟨response, last, same, _⟩ := course_answerFailure first present running
        ⟨response, last, same⟩) course
    obtain ⟨_, _, ⟨⟩, noted⟩ := course_answerFailure first present running
    obtain ⟨rfl, rfl⟩ := course_done_iff.1 second
    exact ⟨_, middle, rfl, noted⟩
  cases result with
  | responded response =>
    obtain ⟨last, _, rfl, present, course⟩ := course_spare course trivial present
    obtain ⟨rfl, rfl⟩ := course_done_iff.1 course
    exact ⟨_, last, rfl, present⟩
  | failed failure => exact failed present course
  | panicked cause =>
    obtain ⟨_, _, rfl, present, course⟩ := course_spare course trivial present
    exact failed present course
  | timedOut limit label => exact failed present course

/-- When a request is closed its root span takes the status, and is finished. -/
theorem course_close {status : Nat} {cancelled : Bool} {e : Ending ν Unit}
    (course : Course (Elsewhere c.root) (close c status cancelled) w ds e)
    (present : w.span? c.root = some s) (running : s.isFinished = false) :
    ∃ last instant, e = .done () last ∧
      last.span? c.root = some ((noteEnd status cancelled s).finish instant) := by
  have finished {s : Span} {w : World ν} {ds : List (Deed ν)} {event : Log.Event}
      (present : w.span? c.root = some s) (running : s.isFinished = false)
      (course : Course (Elsewhere c.root) ((Activity.finish c.root).bind fun _ =>
        Activity.report event) w ds e) :
      ∃ last instant, e = .done () last ∧ last.span? c.root = some (s.finish instant) := by
    obtain ⟨closed, _, rfl, moved, course⟩ := course_act_iff.1 course
    have ended := World.span?_of_elsewhere moved (World.span?_finish present running)
    obtain ⟨last, _, rfl, ended, course⟩ := course_spare course trivial ended
    obtain ⟨rfl, rfl⟩ := course_done_iff.1 course
    exact ⟨last, w.now, rfl, ended⟩
  have kept : (w.span? c.root).any (·.status.isError) = s.status.isError := by rw [present]; rfl
  obtain ⟨_, _, rfl, present, course⟩ := course_spare course trivial present
  obtain ⟨_, _, rfl, present, course⟩ := course_spare course trivial present
  obtain ⟨_, _, rfl, noted, running, course⟩ := course_touch course present running
  dsimp only [Activity.bind] at course
  rw [kept] at course
  cases cancelled with
  | true =>
    obtain ⟨_, _, rfl, noted, running, course⟩ := course_touch course noted running
    exact finished noted running course
  | false =>
    by_cases error : s.status.isError
    · rw [if_pos error] at course
      have same : noteEnd status false s =
          Span.change (.attribute "http.status_code" (.ofNat status)) s := by
        simp [noteEnd, error, Span.change, Span.setAttribute]
      rw [same]
      exact finished noted running course
    · rw [if_neg error] at course
      obtain ⟨_, _, rfl, noted, running, course⟩ := course_touch course noted running
      have same : noteEnd status false s = Span.change (.status .ok)
          (Span.change (.attribute "http.status_code" (.ofNat status)) s) := by
        simp [noteEnd, error, Span.change, Span.setAttribute, Span.setStatus]
      rw [same]
      exact finished noted running course

/-- At the end of a request its root span is finished, with the notes on how the request ended. -/
theorem course_ended {stamp : String} {served : Option Result} {e : Ending ν Handled}
    (course : Course (Elsewhere c.root) (ended stamp c served) w ds e)
    (present : w.span? c.root = some s) (running : s.isFinished = false) :
    ∃ h last instant, e = .done h last ∧ last.span? c.root =
      some ((noteEnd h.status served.isNone (served.elim s (·.note s))).finish instant) := by
  have closed {status : Nat} {cancelled : Bool} {h : Handled} {s : Span} {w : World ν}
      {ds : List (Deed ν)} {e : Ending ν Handled} (same : h.status = status)
      (present : w.span? c.root = some s) (running : s.isFinished = false)
      (course : Course (Elsewhere c.root)
        ((close c status cancelled).bind fun _ => done h) w ds e) :
      ∃ h last instant, e = .done h last ∧
        last.span? c.root = some ((noteEnd h.status cancelled s).finish instant) := by
    subst same
    obtain ⟨_, last, _, _, rfl, first, second⟩ :=
      course_bind_of_ends (fun _ _ first =>
        have ⟨last, _, same, _⟩ := course_close first present running
        ⟨(), last, same⟩) course
    obtain ⟨_, instant, ⟨⟩, noted⟩ := course_close first present running
    obtain ⟨rfl, rfl⟩ := course_done_iff.1 second
    exact ⟨h, last, instant, rfl, noted⟩
  cases served with
  | none =>
    obtain ⟨_, _, rfl, present, course⟩ := course_spare course trivial present
    let gone : Handled := ⟨c, none, [.received, .traced, .executing, .spanClosed]⟩
    exact closed (h := gone) rfl present running course
  | some result =>
    unfold ended answered at course
    obtain ⟨⟨response, stages⟩, middle, _, _, rfl, first, course⟩ :=
      course_bind_of_ends (fun _ _ first =>
        have ⟨answer, last, same, _⟩ := course_answer first present running
        ⟨answer, last, same⟩) course
    obtain ⟨_, _, ⟨⟩, noted⟩ := course_answer first present running
    have open_ : (result.note s).isFinished = false := by
      cases result <;> exact running
    obtain ⟨_, _, rfl, noted, course⟩ := course_spare course trivial noted
    let told : Handled := ⟨c, some (traced c response),
      [.received, .traced, .executing] ++ stages ++ [.responded, .spanClosed]⟩
    exact closed (h := told) rfl noted open_ course

end Root

section Tree

variable {others : World ν → World ν → Prop} {deadline : Deadline} {names : Names} {route : Route}
  {request : Inbound} {w begun : World ν} {c : Context} {ds : List (Deed ν)}

/-- A handler meets the tree of its request with its root. -/
theorem has_nested_of_opening (moments : ∀ w w', others w w' → Later w w')
    (course : Course others (opening deadline names route request) w ds (.done c begun)) :
    c.root.index = 0 ∧ begun.Has c.root.tree SpanTree.Nested := by
  obtain ⟨-, _, planting, planted, _, _, rest, -, moved, root, -, set⟩ := course_opening course
  have wf := SpanTree.wellFormed_root names.tree c.traceId Context.rootName
  have begins : ((Effect.plant names.tree c.traceId Context.rootName).apply planting).Has
      c.root.tree SpanTree.Nested := by
    rw [root]
    exact ⟨_, List.getElem?_concat_length, wf.nested⟩
  have meanwhile := (moments _ _ moved).trans (later_course moments set)
  exact ⟨congrArg SpanRef.index root, begins.later SpanTree.lasting_nested meanwhile⟩

/-- A handler meets the root of its request open. -/
theorem isOpenRoot_of_opening (elsewhere : ∀ w w', others w w' → Elsewhere c.root w w')
    (course : Course others (opening deadline names route request) w ds (.done c begun)) :
    begun.IsOpenRoot c.root := by
  obtain ⟨-, _, planting, planted, _, late, rest, -, moved, root, only, set⟩ :=
    course_opening course
  have begins : planted.IsOpenRoot c.root := by
    refine World.IsOpenRoot.elsewhere ?_ (elsewhere _ _ moved)
    rw [root]
    exact World.isOpenRoot_plant _ _ _ planting _
  refine isOpenRoot_of_course (set.mono elsewhere) ?_ begins
  rintro d member s finishes
  have furnishing := set.only only d member
  rw [finishes] at furnishing
  exact furnishing.elim

/-- Whatever its handler did, the root of a request is finished at its end. -/
theorem ended_finishes (stamp : String) (c : Context) (served : Option Result) :
    (ended stamp c served : Activity ν Handled).Assures fun es _ => .finish c.root ∈ es := by
  have closes (status : Nat) (cancelled : Bool) :
      (close c status cancelled : Activity ν Unit).Assures fun es _ => .finish c.root ∈ es := by
    simp [close, assures_bind]
  cases served with
  | none =>
    simp only [ended, abandoned, bind_eq, pure_eq, assures_bind, assures_report, assures_done]
    exact fun _ => (closes _ _).mono fun es _ finished => by simp [finished]
  | some result =>
    simp only [ended, answered, advance, bind_eq, pure_eq, assures_bind, assures_report,
      assures_done]
    refine (answer_assures c stamp result).mono fun es answer _ _ => ?_
    exact (closes _ _).mono fun es _ finished => by simp [finished]

end Tree

/-- Every request comes to an end at which all spans of its tree are finished, in whatever company,
as long as this only lets things happen.

If nobody else touches the root span and the handler has not finished it, the root has the status
that the request was counted under. Its own status is an error that says so when the caller has gone
away; the kind of the failure, which is an attribute as well, when the handler failed, panicked or
took too long; and otherwise it is an error that the handler set, or else ok. -/
theorem handle_seals (deadline : Deadline) (a : Arrival ν) {others : World ν → World ν → Prop}
    (moments : ∀ w w', others w w' → Later w w') {w : World ν} {ds : List (Deed ν)}
    {e : Ending ν Handled} (course : Course others (a.handle deadline) w ds e) :
    Nonempty (a.Phases deadline others w ds e) ∧ ∀ p : a.Phases deadline others w ds e,
      (∀ result, p.served = some result →
        result = .timedOut (deadline.limit a.route.maxDuration) a.route.template ∨
        ∃ from_ own caught ending, own <:+ p.during ∧
          Course others (a.handler p.context a.inbound) from_ own ending ∧
          ending.caught = .done caught p.middle ∧ result = .ofCaught caught) ∧
      (∃ t, p.last.trees[p.context.root.tree]? = some t ∧ t.spans ≠ [] ∧
        ∀ s ∈ t.spans, s.isFinished) ∧
      ((∀ w w', others w w' → Elsewhere p.context.root w w') →
        (∀ d ∈ p.during, d.effect.Leaves p.context.root) →
        ∃ root final sample, p.middle.span? p.context.root = some root ∧
          p.last.span? p.context.root = some final ∧
          samples (ds.map (·.effect)) = [sample] ∧
          final.attributes.get? "http.status_code" = some (.ofNat sample.status) ∧
          (p.served = none → final.status = .error "cancelled") ∧
          ∀ result, p.served = some result →
            (∀ failure, result.failure? = some failure →
              final.status = .error failure.classify.kind.name ∧
              final.attributes.get? "error.kind" = some (.text failure.classify.kind.name)) ∧
            (result.failure? = none →
              final.status = if root.status.isError then root.status else .ok)) := by
  refine ⟨nonempty_phased course, fun p => ?_⟩
  obtain ⟨received, -⟩ := course_opening p.opened
  refine ⟨fun result served => ?_, ?_, fun elsewhere leaves => ?_⟩
  · have serving := p.serving
    rw [served] at serving
    have label : p.context.routeLabel = a.route.template := by
      rw [Context.routeLabel, received.route]
    rw [← label]
    exact course_serving serving
  · obtain ⟨top, begins⟩ := has_nested_of_opening moments p.opened
    obtain ⟨_, _, ⟨⟩, finishes⟩ := p.closing.assured (ended_finishes a.stamp p.context p.served)
    obtain ⟨d, member, finish⟩ := List.mem_map.1 finishes
    obtain ⟨before, after⟩ := later_deed moments p.closing d member
    have meanwhile := (later_course moments p.serving).trans before
    rw [finish] at after
    exact World.finished_of_finish (begins.later SpanTree.lasting_nested meanwhile) top after
  · have begins := isOpenRoot_of_opening elsewhere p.opened
    have serving := p.serving.mono elsewhere
    obtain ⟨root, present, -, running⟩ := isOpenRoot_of_course serving leaves begins
    obtain ⟨_, _, instant, ⟨⟩, noted⟩ :=
      course_ended (p.closing.mono elsewhere) present running
    obtain ⟨h, _, same, duration, counted⟩ := course.assured (a.handle_assures deadline)
    obtain ⟨rfl, -⟩ := Ending.done.inj (p.ending_eq.symm.trans same)
    refine ⟨root, _, _, present, noted, counted, ?_, fun gone => ?_, fun result served => ?_⟩
    · simp [noteEnd, Span.finish, Dictionary.get?_insert]
    · simp [noteEnd, Span.finish, gone]
    · refine ⟨fun failure failed => ?_, fun responded => ?_⟩
      · simp [noteEnd, Span.finish, served, Result.note, failed, noteFailure,
          Span.Status.isError, Dictionary.get?_insert]
      · simp [noteEnd, Span.finish, served, Result.note, responded]

/-- A request that may take five milliseconds, and whose handler calls another service once. -/
def calling : Arrival Unit where
  names := ⟨"t", "trace"⟩
  stamp := ""
  route := ⟨"GET", "/cats/:id", "cats", "find_one", some (.ofMillis 5)⟩
  inbound := ⟨"GET", "/cats/1", [], .empty⟩
  handler := fun c _ =>
    (Downstream.Call.run .once c.root (.new "GET" "http://owners/1")).bind fun _ =>
      done (.ok (.ofJson 200 ""))
  patience := none
  quiet := fun c => only_bind (Downstream.quiet_run .once _ c.root) fun _ => trivial

/-- A call that is never answered is cut off by the deadline of its request, and its span is finished
with the root. -/
theorem handle_seals_call :
    ∃ h last t final,
      (calling.handle (.new none)).run (.start (.ofReplies [.never]) [] ()) = .done h last ∧
      last.trees[0]? = some t ∧ (∀ s ∈ t.spans, s.isFinished) ∧
      last.span? ⟨0, 0, ⟨"t", 0⟩⟩ = some final ∧ final.status = .error "timeout" := by
  have alone := course_run (fun w : World Unit => Eq.refl w) (calling.handle (.new none))
    (.start (.ofReplies [.never]) [] ())
  have idle (w w' : World Unit) (same : w = w') : Later w w' := same ▸ .refl
  obtain ⟨⟨p⟩, phases⟩ := handle_seals (.new none) calling idle alone
  obtain ⟨-, ⟨t, tree, -, finished⟩, told⟩ := phases p
  obtain ⟨-, opened⟩ := course_eq_iff.1 p.opened
  obtain ⟨during, serving⟩ := course_eq_iff.1 p.serving
  -- Alone in its world the request goes one way, which is computed.
  have root : p.context.root = ⟨0, 0, ⟨"t", 0⟩⟩ := by
    have computed := congrArg (fun
      | .done c _ => c.root
      | _ => p.context.root) opened
    exact computed
  have served : p.served = some (.timedOut (.ofMillis 5) "/cats/:id") := by
    have computed := congrArg (fun
      | .done c begun => match (calling.serving (.new none) c).run begun with
        | .done served _ => served
        | _ => p.served
      | _ => p.served) opened
    dsimp only at computed
    rw [← serving] at computed
    exact computed
  have unfinished : (p.during.all fun d => match d.effect with
      | .finish _ => false
      | _ => true) = true := by
    have computed := congrArg (fun
      | .done c begun => ((calling.serving (.new none) c).deeds begun).all fun d =>
        match d.effect with
        | .finish _ => false
        | _ => true
      | _ => true) opened
    rw [during]
    exact computed
  have leaves : ∀ d ∈ p.during, d.effect.Leaves ⟨0, 0, ⟨"t", 0⟩⟩ := by
    rintro d member s finishes
    have other := List.all_eq_true.1 unfinished d member
    rw [finishes] at other
    cases other
  rw [root] at tree told
  obtain ⟨_, final, _, -, there, -, -, -, status⟩ :=
    told (fun w w' same => same ▸ .refl) leaves
  obtain ⟨error, -⟩ := (status _ served).1 _ rfl
  exact ⟨p.handled, p.last, t, final, p.ending_eq, tree, finished, there, error⟩

end Ingress.Pipeline
