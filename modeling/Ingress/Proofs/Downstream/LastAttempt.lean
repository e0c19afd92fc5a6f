import Ingress.Proofs.Downstream.Effects
import Ingress.Proofs.Downstream.Retrying

/-!
# The last attempt of a call

In any company a call comes to what its last attempt came to, and sends nothing after it. Unless its
span cannot be started it has sent its request.
-/

namespace Ingress.Downstream.Call

open Activity

variable {others : World ν → World ν → Prop} {policy : Retry.Policy} {request : Request}
  {span : SpanRef} {number : Nat} {w : World ν} {ds : List (Deed ν)}

theorem sendings_of_works {a : Activity ν α} {e : Ending ν α} (course : Course others a w ds e)
    (works : a.Only Works) : sendings ds = [] :=
  sendings_eq_nil course (works.mono fun _ works => works.sent?_eq_none)

/-- The last request of some deeds was sent by an attempt, with this outcome. -/
def EndsWith (policy : Retry.Policy) (request : Request) (ds : List (Deed ν)) (o : Outcome) : Prop :=
  ∃ earlier deeds rest, ds = earlier ++ (deeds ++ rest) ∧ ComesTo policy request deeds o ∧
    sendings rest = []

namespace EndsWith

variable {o : Outcome}

theorem before (ends : EndsWith policy request ds o) {later : List (Deed ν)}
    (quiet : sendings later = []) : EndsWith policy request (ds ++ later) o := by
  obtain ⟨earlier, deeds, rest, rfl, comes, quiet'⟩ := ends
  refine ⟨earlier, deeds, rest ++ later, by simp, comes, ?_⟩
  rw [sendings_append, quiet, quiet']
  rfl

theorem after (ends : EndsWith policy request ds o) (first : List (Deed ν)) :
    EndsWith policy request (first ++ ds) o := by
  obtain ⟨earlier, deeds, rest, rfl, comes, quiet⟩ := ends
  exact ⟨first ++ earlier, deeds, rest, by simp, comes, quiet⟩

end EndsWith

/-- An attempt sends its request, whether it ends or not. -/
theorem sendings_attempt {e : Ending ν Outcome}
    (course : Course others (attempt policy request) w ds e) : sendings ds = [request] := by
  rcases course_attempt course with ⟨o, last, rfl, comes⟩ | ⟨last, rfl, -, sending, rfl, -⟩
  · exact comes.sendings
  · rfl

/-- What an attempt is told as comes of its outcome. -/
theorem course_tryOnce {e : Ending ν (Except Outcome Response)}
    (course : Course others (tryOnce policy request span number) w ds e) :
    sendings ds ≠ [] ∧ ∀ result last, e = .done result last → ∃ o,
      EndsWith policy request ds o ∧
        ((o.success? = none ∧ result = .error o) ∨
          ∃ response, o.success? = some response ∧ result = .ok response) := by
  unfold tryOnce at course
  rcases course_bind course with ⟨o, middle, ds₁, ds₂, rfl, first, second⟩ |
    ⟨cause, last, first, rfl⟩ | ⟨last, first, rfl⟩
  · obtain ⟨_, _, ⟨⟩, comes⟩ | ⟨_, ⟨⟩, -⟩ := course_attempt first
    refine ⟨by simp [comes.sendings], fun result last ended => ?_⟩
    subst ended
    obtain ⟨_, rest, rfl, -, second⟩ := course_act_iff.1 second
    dsimp only [Activity.bind] at second
    cases success : o.success? with
    | none =>
      rw [success] at second
      obtain ⟨rfl, same⟩ := course_done_iff.1 second
      obtain ⟨rfl, -⟩ := Ending.done.inj same
      exact ⟨o, ⟨[], ds₁, _, rfl, comes, rfl⟩, .inl ⟨success, rfl⟩⟩
    | some response =>
      rw [success] at second
      obtain ⟨_, rest, rfl, -, second⟩ := course_act_iff.1 second
      obtain ⟨rfl, same⟩ := course_done_iff.1 second
      obtain ⟨rfl, -⟩ := Ending.done.inj same
      exact ⟨o, ⟨[], ds₁, _, rfl, comes, rfl⟩, .inr ⟨response, success, rfl⟩⟩
  · exact ⟨by simp [sendings_attempt first], fun _ _ ended => by cases ended⟩
  · exact ⟨by simp [sendings_attempt first], fun _ _ ended => by cases ended⟩

/-- The attempts of a call come to what the last one came to. -/
theorem course_attempts_last {more : Nat} {e : Ending ν (Except Failure Response)}
    (course : Course others (attempts policy request span number more) w ds e) :
    sendings ds ≠ [] ∧ ∀ result last, e = .done result last → ∃ o number,
      EndsWith policy request ds o ∧ result = settle request number o := by
  induction more using Nat.strongRecOn generalizing number w ds e with
  | _ more ih =>
    rw [attempts_eq] at course
    rcases course_bind course with ⟨tried, middle, ds₁, ds₂, rfl, first, second⟩ |
      ⟨cause, last, first, rfl⟩ | ⟨last, first, rfl⟩
    · obtain ⟨sent, comes⟩ := course_tryOnce first
      refine ⟨by simp [sent], fun result last ended => ?_⟩
      subst ended
      obtain ⟨o, ends, ⟨failed, rfl⟩ | ⟨response, success, rfl⟩⟩ := comes _ _ rfl
      · dsimp only at second
        split at second
        · -- Another attempt follows, and the last one is among those after the pause.
          obtain ⟨_, later, ds₃, ds₄, rfl, -, rest⟩ := course_bind_done second
          obtain ⟨-, comes⟩ := ih (more - 1) (by omega) rest
          obtain ⟨o', number', ends', rfl⟩ := comes _ _ rfl
          exact ⟨o', number', (ends'.after ds₃).after ds₁, rfl⟩
        · -- This attempt was the last one, for giving up sends nothing.
          have quiet := sendings_of_works second (only_giveUp allows_works request span number o)
          refine ⟨o, number, ends.before quiet, ?_⟩
          obtain ⟨_, _, rfl, -, second⟩ := course_act_iff.1 second
          obtain ⟨_, _, rfl, -, second⟩ := course_act_iff.1 second
          obtain ⟨_, _, rfl, -, second⟩ := course_act_iff.1 second
          obtain ⟨rfl, same⟩ := course_done_iff.1 second
          obtain ⟨rfl, -⟩ := Ending.done.inj same
          rw [settle, failed]
      · obtain ⟨rfl, same⟩ := course_done_iff.1 second
        obtain ⟨rfl, -⟩ := Ending.done.inj same
        refine ⟨o, number, ends.before rfl, ?_⟩
        rw [settle, success]
    · exact ⟨(course_tryOnce first).1, fun _ _ ended => by cases ended⟩
    · exact ⟨(course_tryOnce first).1, fun _ _ ended => by cases ended⟩

/-- A call that is not refused sends its request, and comes to what its last attempt came to. -/
theorem course_run_last {parent : SpanRef} {e : Ending ν (Except CallError Response)}
    (course : Course others (run policy parent request) w ds e) :
    (∃ error last, e = .done (.error (.trace error)) last ∧ sendings ds = []) ∨
      (sendings ds ≠ [] ∧ ∀ result last, e = .done result last → ∃ o number,
        EndsWith policy request ds o ∧
          result = (settle request number o).mapError .failed) := by
  obtain ⟨_, rest, rfl, -, course⟩ := course_act_iff.1 course
  dsimp only [Activity.bind] at course
  cases started : w.child parent with
  | error error =>
    rw [started] at course
    obtain ⟨rfl, rfl⟩ := course_done_iff.1 course
    exact .inl ⟨error, _, rfl, rfl⟩
  | ok span =>
    rw [started] at course
    refine .inr ?_
    obtain ⟨_, rest, rfl, -, course⟩ := course_act_iff.1 course
    obtain ⟨_, rest, rfl, -, course⟩ := course_act_iff.1 course
    dsimp only [Activity.bind] at course
    rcases course_bind course with ⟨result, middle, ds₁, ds₂, rfl, first, second⟩ |
      ⟨cause, last, first, rfl⟩ | ⟨last, first, rfl⟩
    · obtain ⟨sent, comes⟩ := course_attempts_last first
      refine ⟨fun none => sent ?_, fun value last ended => ?_⟩
      · exact (List.append_eq_nil_iff.1 ((sendings_append ds₁ ds₂).symm.trans none)).1
      subst ended
      obtain ⟨o, number, ends, rfl⟩ := comes _ _ rfl
      obtain ⟨_, closing, ds₃, _, rfl, concluded, second⟩ := course_bind_done second
      have quiet := sendings_of_works concluded (only_conclude allows_works span _)
      obtain ⟨_, _, rfl, -, second⟩ := course_act_iff.1 second
      obtain ⟨rfl, same⟩ := course_done_iff.1 second
      obtain ⟨rfl, -⟩ := Ending.done.inj same
      have silent : sendings (ds₃ ++ [⟨closing, .finish span⟩]) = [] := by
        rw [sendings_append, quiet]
        rfl
      exact ⟨o, number, (ends.before silent).after [_, _, _], rfl⟩
    · obtain ⟨sent, -⟩ := course_attempts_last first
      exact ⟨sent, fun _ _ ended => by cases ended⟩
    · obtain ⟨sent, -⟩ := course_attempts_last first
      exact ⟨sent, fun _ _ ended => by cases ended⟩

end Ingress.Downstream.Call
