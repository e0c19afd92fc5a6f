import Ingress.Downstream.Client
import Ingress.Proofs.Activity.Assurance

/-!
# Refused calls

Where the span of a call cannot be started, because its parent is finished, the call is refused and
nothing is sent.
-/

namespace Ingress

open Activity

/-- What is passed on has no effects but reports. -/
theorem Context.propagate_assures {p : Effect ν → Prop} (report : ∀ event, p (.report event))
    (c : Context) (headers : Headers) :
    (c.propagate headers : Activity ν Headers).Assures fun es _ => ∀ e ∈ es, p e := by
  unfold propagate
  dsimp only
  split
  · split <;> exact List.forall_mem_nil p
  · refine fun _ => ?_
    dsimp only [Activity.bind]
    split <;> exact List.forall_mem_singleton.2 (report _)

namespace Downstream

variable {others : World ν → World ν → Prop} {w : World ν} {ds : List (Deed ν)}
  {request : Request} {error : TraceError}

/-- Where the span of a call cannot be started, the call is refused at once. -/
theorem course_run_refused {policy : Retry.Policy} {parent : SpanRef}
    {e : Ending ν (Except CallError Response)} (refused : w.child parent = .error error)
    (course : Course others (Call.run policy parent request) w ds e) :
    ds = [⟨w, .branch parent ("HTTP " ++ request.method)⟩] ∧
      ∃ last, e = .done (.error (.trace error)) last := by
  obtain ⟨later, rest, rfl, -, course⟩ := course_act_iff.1 course
  dsimp only [Activity.bind] at course
  rw [refused] at course
  obtain ⟨rfl, rfl⟩ := course_done_iff.1 course
  exact ⟨rfl, later, rfl⟩

/-- So is a call through a client of a request, where this goes on however others do. -/
theorem course_send_refused {P : World ν → Prop} {client : Client}
    {e : Ending ν (Except CallError Response)}
    (refused : ∀ w, P w → w.child client.parent = .error error)
    (reports : ∀ event w, P w → P ((Effect.report event).apply w))
    (ticks : ∀ w instant, P w → P (w.advance instant))
    (stays : ∀ w w', others w w' → P w → P w') (begins : P w)
    (course : Course others (client.send request) w ds e) :
    (∀ d ∈ ds, ∀ r, d.effect ≠ .send r) ∧ ∃ last, e = .done (.error (.trace error)) last := by
  have passed := client.context.propagate_assures
    (p := fun e : Effect ν => ∃ event, e = .report event) (fun event => ⟨event, rfl⟩)
    request.headers
  obtain ⟨headers, middle, ds₁, ds₂, rfl, first, reported, second⟩ := course.split passed
  have still : P middle := by
    refine first.invariant ?_ ticks stays passed.only begins
    rintro _ ⟨event, rfl⟩ w holds
    exact reports event w holds
  obtain ⟨rfl, last, rfl⟩ := course_run_refused (refused middle still) second
  refine ⟨fun d member r sent => ?_, last, rfl⟩
  rcases List.mem_append.1 member with early | late
  · obtain ⟨event, same⟩ := reported _ (List.mem_map.2 ⟨d, early, rfl⟩)
    rw [sent] at same
    cases same
  · rw [List.mem_singleton.1 late] at sent
    cases sent

end Downstream

end Ingress
