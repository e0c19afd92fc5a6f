import Ingress.Activity.Limit
import Ingress.Proofs.Activity.Course

/-!
# Timing

When an activity that is alone in its world ends, and what is left of it when it is cut off at an
instant: it goes on as without the cut if it ends by that instant, and otherwise it has done just
what it would have done up to then.
-/

namespace Ingress

/-- The instant at which a pause is over that begins now. -/
def Clock.afterPause (now : Nat) (length : Duration) : Nat :=
  if length.nanos = 0 then now else max now (due now length)

/-- What a pause makes of a world. -/
def World.slept (length : Duration) (w : World ν) : World ν :=
  if length.nanos = 0 then w else w.advance (Clock.due w.now length)

namespace Activity

variable {α β : Type}

/-- The instant of an ending. -/
def Ending.instant? : Ending ν α → Option Nat
  | .done _ w | .panicked _ w => some w.now
  | .never _ => none

/-- The ending with another value. -/
def Ending.map (f : α → β) : Ending ν α → Ending ν β
  | .done value w => .done (f value) w
  | .panicked cause w => .panicked cause w
  | .never w => .never w

/-- How an activity ended whose panics are caught. -/
def Ending.caught : Ending ν α → Ending ν (Except Panic α)
  | .done value w => .done (.ok value) w
  | .panicked cause w => .done (.error cause) w
  | .never w => .never w

/-- The activity, begun in a world, ends at an instant or before. -/
def EndsBy (instant : Nat) (a : Activity ν α) (w : World ν) : Prop :=
  ∃ t ∈ (a.run w).instant?, t ≤ instant

/-- The clock does not go back. -/
theorem now_le_advance (instant : Nat) (w : World ν) : w.now ≤ (w.advance instant).now :=
  Nat.le_max_left _ _

theorem le_now_advance (instant : Nat) (w : World ν) : instant ≤ (w.advance instant).now :=
  Nat.le_max_right _ _

theorem now_advance_le {instant limit : Nat} {w : World ν} (begun : w.now ≤ limit)
    (due : instant ≤ limit) : (w.advance instant).now ≤ limit := Nat.max_le.2 ⟨begun, due⟩

/-- Nothing is done before the beginning. -/
theorem now_le_met {a : Activity ν α} {w : World ν} : ∀ d ∈ a.deeds w, w.now ≤ d.met.now := by
  induction a generalizing w with
  | done _ | panic _ | forever => exact List.forall_mem_nil _
  | act effect next ih =>
    refine List.forall_mem_cons.2 ⟨Nat.le_refl _, fun d member => ?_⟩
    have later := ih w d member
    rwa [effect.now_apply] at later
  | wait instant next ih =>
    exact fun d member => Nat.le_trans (now_le_advance instant w) (ih d member)

/-- Nothing ends before its beginning. -/
theorem now_le_instant {a : Activity ν α} {w : World ν} :
    ∀ t ∈ (a.run w).instant?, w.now ≤ t := by
  induction a generalizing w with
  | done _ | panic _ => rintro t ⟨⟩; exact Nat.le_refl _
  | forever => rintro t ⟨⟩
  | act effect next ih =>
    intro t ends
    have later := ih w t ends
    rwa [effect.now_apply] at later
  | wait instant next ih =>
    exact fun t ends => Nat.le_trans (now_le_advance instant w) (ih t ends)

/-- What waits for a later instant does not end by this one. -/
theorem not_endsBy_wait {limit instant : Nat} (next : Activity ν α) (w : World ν)
    (late : limit < instant) : ¬ (wait instant next).EndsBy limit w := by
  rintro ⟨t, ends, early⟩
  have reached := now_le_instant (a := next) (w := w.advance instant) t ends
  have := le_now_advance instant w
  omega

/-- A pause is over at once if it has no length, and otherwise when its timer goes off. -/
theorem run_sleep (length : Duration) (w : World ν) :
    (sleep length).run w = .done () (w.slept length) := by
  unfold sleep World.slept
  split <;> rfl

theorem now_slept (length : Duration) (w : World ν) :
    (w.slept length).now = Clock.afterPause w.now length := by
  unfold World.slept Clock.afterPause
  split <;> rfl

/-- An activity that ends by the instant at which it would be cut off goes on as without the cut. -/
theorem run_cutAt_of_endsBy {limit : Nat} {a : Activity ν α} {w : World ν}
    (ends : a.EndsBy limit w) :
    (cutAt limit a).run w = (a.run w).map some ∧ (cutAt limit a).deeds w = a.deeds w := by
  induction a generalizing w with
  | done _ | panic _ => exact ⟨rfl, rfl⟩
  | forever => obtain ⟨t, ⟨⟩, -⟩ := ends
  | act effect next ih =>
    obtain ⟨sameEnd, sameDeeds⟩ := ih w ends
    exact ⟨sameEnd, congrArg _ sameDeeds⟩
  | wait instant next ih =>
    have due : instant ≤ limit := Nat.le_of_not_lt fun late => not_endsBy_wait next w late ends
    simp only [cutAt, if_pos due]
    exact ih ends

/-- An activity that does not end by the instant at which it is cut off has done by then what it
would have done without the cut, and no more. -/
theorem run_cutAt_of_not_endsBy {limit : Nat} {a : Activity ν α} {w : World ν}
    (begun : w.now ≤ limit) (late : ¬ a.EndsBy limit w) :
    ∃ last, (cutAt limit a).run w = .done none last ∧ last.now = limit ∧
      (cutAt limit a).deeds w = (a.deeds w).filter (·.met.now ≤ limit) := by
  induction a generalizing w with
  | done _ | panic _ => exact absurd ⟨w.now, rfl, begun⟩ late
  | forever => exact ⟨w.advance limit, rfl, Nat.max_eq_right begun, rfl⟩
  | act effect next ih =>
    have begun' : (effect.apply w).now ≤ limit := by rwa [effect.now_apply]
    obtain ⟨last, ran, reached, did⟩ := ih w begun' late
    refine ⟨last, ran, reached, ?_⟩
    simp only [cutAt, deeds, did, List.filter_cons, decide_eq_true begun, if_true]
  | wait instant next ih =>
    by_cases due : instant ≤ limit
    · simp only [cutAt, if_pos due]
      exact ih (now_advance_le begun due) late
    · simp only [cutAt, if_neg due]
      refine ⟨w.advance limit, rfl, Nat.max_eq_right begun, ?_⟩
      -- Whatever follows the pause is done after its end, hence after the cut.
      refine (List.filter_eq_nil_iff.2 fun d member => ?_).symm
      have reached := now_le_met (a := next) (w := w.advance instant) d member
      have := le_now_advance instant w
      simp only [decide_eq_true_eq]
      omega

section Course

variable {others : World ν → World ν → Prop} {a : Activity ν α} {w last : World ν}
  {ds : List (Deed ν)}

/-- An activity that has ended before the cut has had a course of its own. -/
theorem Course.of_cutAt {instant : Nat} {value : α}
    (course : Course others (cutAt instant a) w ds (.done (some value) last)) :
    Course others a w ds (.done value last) := by
  induction a generalizing w ds with
  | done other =>
    obtain ⟨rfl, same⟩ := course_done_iff.1 course
    cases same
    exact .done
  | panic cause => cases course
  | act effect next ih =>
    obtain ⟨later, rest, rfl, moved, course⟩ := course_act_iff.1 course
    exact .act moved (ih w course)
  | wait t next ih =>
    unfold cutAt at course
    split at course
    · obtain ⟨before, later, moved, moved', course⟩ := course_wait_iff.1 course
      exact .wait moved moved' (ih course)
    · obtain ⟨before, later, -, -, course⟩ := course_wait_iff.1 course
      cases course
  | forever =>
    obtain ⟨before, later, -, -, course⟩ := course_wait_iff.1 course
    cases course

theorem Course.of_caught {e : Ending ν (Except Panic α)} (course : Course others a.caught w ds e) :
    ∃ ending : Ending ν α, ending.caught = e ∧ Course others a w ds ending := by
  induction a generalizing w ds with
  | done value =>
    obtain ⟨rfl, rfl⟩ := course_done_iff.1 course
    exact ⟨.done value w, rfl, .done⟩
  | panic cause =>
    obtain ⟨rfl, rfl⟩ := course_done_iff.1 course
    exact ⟨.panicked cause w, rfl, .panic⟩
  | forever =>
    obtain ⟨rfl, rfl⟩ := course_forever_iff.1 course
    exact ⟨.never w, rfl, .forever⟩
  | act effect next ih =>
    obtain ⟨later, rest, rfl, moved, course⟩ := course_act_iff.1 course
    obtain ⟨ending, same, course⟩ := ih w course
    exact ⟨ending, same, .act moved course⟩
  | wait t next ih =>
    obtain ⟨before, later, moved, moved', course⟩ := course_wait_iff.1 course
    obtain ⟨ending, same, course⟩ := ih course
    exact ⟨ending, same, .wait moved moved' course⟩

end Course

/-- The activity ends without a pause. -/
def Prompt : Activity ν α → Prop
  | done _ => True
  | act _ next => ∀ w, Prompt (next w)
  | panic _ | wait _ _ | forever => False

theorem prompt_bind {a : Activity ν α} {f : α → Activity ν β} (first : a.Prompt)
    (second : ∀ value, (f value).Prompt) : (a.bind f).Prompt := by
  induction a with
  | done value => exact second value
  | act effect next ih => exact fun w => ih w (first w)
  | panic _ | wait _ _ _ | forever => exact first.elim

/-- What ends without a pause ends at once. -/
theorem run_of_prompt {a : Activity ν α} (prompt : a.Prompt) (w : World ν) :
    ∃ value last, a.run w = .done value last ∧ last.now = w.now := by
  induction a generalizing w with
  | done value => exact ⟨value, w, rfl, rfl⟩
  | act effect next ih =>
    obtain ⟨value, last, ran, same⟩ := ih w (prompt w) (effect.apply w)
    exact ⟨value, last, ran, same.trans (effect.now_apply w)⟩
  | panic _ | wait _ _ _ | forever => exact prompt.elim

theorem deeds_bind (a : Activity ν α) (f : α → Activity ν β) (w : World ν) :
    (a.bind f).deeds w =
      a.deeds w ++ match a.run w with
        | .done value w => (f value).deeds w
        | .panicked _ _ | .never _ => [] := by
  induction a generalizing w with
  | done _ | panic _ | forever => rfl
  | act effect next ih => exact congrArg (⟨w, effect⟩ :: ·) (ih w _)
  | wait instant next ih => exact ih _

theorem deeds_bind_of_done {a : Activity ν α} {f : α → Activity ν β} {w last : World ν} {value : α}
    (ran : a.run w = .done value last) :
    (a.bind f).deeds w = a.deeds w ++ (f value).deeds last := by
  rw [deeds_bind, ran]

end Activity

end Ingress
