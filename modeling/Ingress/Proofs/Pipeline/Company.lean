import Ingress.Proofs.Pipeline.Answering

/-!
# Requests in company

Whatever others do meanwhile, a course of handling a request falls into the phases of the handling.
What the handler's part comes to is what the handler itself ended with, in a course of its own, or
that its time was up.
-/

namespace Ingress.Pipeline

open Activity

/-- A course of handling a request, phase by phase. -/
structure Phased (others : World ν → World ν → Prop) (before : Activity ν Context)
    (serve : Context → Activity ν (Option Result)) (stamp : String) (w : World ν)
    (ds : List (Deed ν)) (e : Ending ν Handled) where
  context : Context
  begun : World ν
  /-- What the handler's part came to; nothing when the caller went away. -/
  served : Option Result
  middle : World ν
  handled : Handled
  last : World ν
  early : List (Deed ν)
  during : List (Deed ν)
  late : List (Deed ν)
  deeds_eq : ds = early ++ (during ++ late)
  ending_eq : e = .done handled last
  opened : Course others before w early (.done context begun)
  serving : Course others (serve context) begun during (.done served middle)
  closing : Course others (ended stamp context served) middle late (.done handled last)

/-- The phases of a request of an application. -/
abbrev Arrival.Phases (deadline : Deadline) (a : Arrival ν) (others : World ν → World ν → Prop)
    (w : World ν) (ds : List (Deed ν)) (e : Ending ν Handled) :=
  Phased others (opening deadline a.names a.route a.inbound)
    (fun c => a.serving deadline c) a.stamp w ds e

theorem ended_context (stamp : String) (c : Context) (served : Option Result) :
    (ended stamp c served : Activity ν Handled).Assures fun _ h => h.context = c := by
  cases served with
  | some result => exact (answered_responds stamp c result).mono fun _ _ responded => responded.1
  | none =>
    simp only [ended, abandoned, bind_eq, pure_eq, assures_bind, assures_report, assures_done]
    exact fun _ => (close_closing c closedStatus true).mono fun _ _ _ => trivial

variable {others : World ν → World ν → Prop} {deadline : Deadline} {names : Names}
  {stamp : String} {route : Route} {request : Inbound} {handler : Handler ν}
  {patience : Option Duration} {w : World ν} {ds : List (Deed ν)}

/-- Every course of handling a request has its phases. -/
theorem nonempty_phased {e : Ending ν Handled}
    (course : Course others (handle deadline names stamp route request handler patience) w ds e) :
    Nonempty (Phased others (opening deadline names route request)
      (fun c => withinOption patience (execute deadline route request handler c)) stamp w ds e) := by
  rw [handle_eq] at course
  obtain ⟨c, begun, ds₁, _, rfl, first, -, course⟩ :=
    course.split (opening_assures deadline names route request)
  have served : (withinOption patience (execute deadline route request handler c)).Assures
      fun _ _ => True := by
    have executed := execute_assures (p := fun _ => True) (only_true (handler c request)) trivial
      (fun _ => trivial) deadline route
    exact (withinOption_assures executed trivial patience).mono fun _ _ _ => trivial
  obtain ⟨result, middle, ds₂, ds₃, rfl, second, -, third⟩ := course.split served
  obtain ⟨h, last, rfl, -⟩ := third.assured (ended_context stamp c result)
  exact ⟨⟨c, begun, result, middle, h, last, ds₁, ds₂, ds₃, rfl, rfl, first, second, third⟩⟩

/-- The handler's part as the caller waits for it. -/
theorem course_withinOption {α : Type} {a : Activity ν α} {value : α} {last : World ν}
    (course : Course others (withinOption patience a) w ds (.done (some value) last)) :
    ∃ from_ own, own <:+ ds ∧ Course others a from_ own (.done value last) := by
  cases patience with
  | none =>
    obtain ⟨_, _, ds₁, ds₂, rfl, first, second⟩ := course_bind_done course
    cases second
    exact ⟨w, ds₁, by simp, first⟩
  | some limit =>
    obtain ⟨later, rest, rfl, -, course⟩ := course_act_iff.1 course
    exact ⟨later, rest, List.suffix_cons _ _, Course.of_cutAt course⟩

/-- What the handler's part comes to is what the handler itself ended with, unless its time was
up. -/
theorem course_execute {c : Context} {result : Result} {last : World ν}
    (course : Course others (execute deadline route request handler c) w ds (.done result last)) :
    result = .timedOut (deadline.limit route.maxDuration) c.routeLabel ∨
      ∃ from_ own caught ending, own <:+ ds ∧ Course others (handler c request) from_ own ending ∧
        ending.caught = .done caught last ∧ result = .ofCaught caught := by
  rw [execute_eq] at course
  obtain ⟨later, rest, rfl, -, course⟩ := course_act_iff.1 course
  obtain ⟨cut, middle, ds₁, ds₂, rfl, first, second⟩ := course_bind_done course
  cases cut with
  | none =>
    obtain ⟨_, _, rfl, -, second⟩ := course_act_iff.1 second
    cases second
    exact .inl rfl
  | some caught =>
    -- What was not cut off has gone its own course, to an end that was caught.
    cases second
    obtain ⟨ending, same, own⟩ := Course.of_caught (Course.of_cutAt first)
    refine .inr ⟨later, ds₁, caught, ending, ?_, own, same, rfl⟩
    simp

theorem course_serving {c : Context} {result : Result} {last : World ν}
    (course : Course others (withinOption patience (execute deadline route request handler c)) w ds
      (.done (some result) last)) :
    result = .timedOut (deadline.limit route.maxDuration) c.routeLabel ∨
      ∃ from_ own caught ending, own <:+ ds ∧ Course others (handler c request) from_ own ending ∧
        ending.caught = .done caught last ∧ result = .ofCaught caught := by
  obtain ⟨from_, part, suffix, course⟩ := course_withinOption course
  rcases course_execute course with late | ⟨from', own, caught, ending, suffix', course, ended⟩
  · exact .inl late
  · exact .inr ⟨from', own, caught, ending, suffix'.trans suffix, course, ended⟩

namespace Phased

variable {before : Activity ν Context} {serve : Context → Activity ν (Option Result)}
  {e : Ending ν Handled} (p : Phased others before serve stamp w ds e)

theorem context_eq : p.handled.context = p.context := by
  obtain ⟨_, _, ⟨⟩, same⟩ := p.closing.assured (ended_context stamp p.context p.served)
  exact same

/-- What is told of a request comes of its result. -/
theorem response_eq : p.handled.response =
    p.served.map fun result => traced p.context (result.response p.context stamp) := by
  have closing := p.closing
  cases served : p.served with
  | none =>
    rw [served] at closing
    obtain ⟨_, _, ⟨⟩, gone, -⟩ := closing.assured (ended_assures stamp p.context none)
    exact gone.2 rfl
  | some result =>
    rw [served] at closing
    obtain ⟨_, _, ⟨⟩, -, told⟩ := closing.assured (answered_responds stamp p.context result)
    exact told

theorem traced_response (shown : Http.Shows p.context.traceId.toUTF8) {r : Response}
    (told : p.handled.response = some r) :
    r.headers.getAll Headers.traceId = [p.context.traceId.toUTF8] := by
  rw [p.response_eq] at told
  obtain ⟨result, -, rfl⟩ := Option.map_eq_some_iff.1 told
  exact (retraces_traced shown _).single

end Phased

end Ingress.Pipeline
