import Ingress.Proofs.Activity.Assurance
import Mathlib.Data.List.Forall2

/-!
# Turns

Activities that share a world take turns in any order: at each turn one of them, whichever it is,
has its next effect or comes to the end of a pause. What they do together is what each of them does
in a course of its own, in some order.
-/

namespace Ingress.Activity

variable {α : Type}

/-- One turn of one of several activities, with its effect if it has one. -/
inductive Turn :
    List (Activity ν α) → World ν → Option (Effect ν) → List (Activity ν α) → World ν → Prop
  | act {effect : Effect ν} {next : World ν → Activity ν α} {rest : List (Activity ν α)}
      {w : World ν} :
      Turn (.act effect next :: rest) w (some effect) (next w :: rest) (effect.apply w)
  | wait {instant : Nat} {next : Activity ν α} {rest : List (Activity ν α)} {w : World ν} :
      Turn (.wait instant next :: rest) w none (next :: rest) (w.advance instant)
  | pass {a : Activity ν α} {as bs : List (Activity ν α)} {w later : World ν}
      {effect : Option (Effect ν)} :
      Turn as w effect bs later → Turn (a :: as) w effect (a :: bs) later

/-- Turns one after the other, with their effects in order. -/
inductive Turns :
    List (Activity ν α) → World ν → List (Effect ν) → List (Activity ν α) → World ν → Prop
  | stop {as : List (Activity ν α)} {w : World ν} : Turns as w [] as w
  | turn {as bs cs : List (Activity ν α)} {w later last : World ν} {effect : Option (Effect ν)}
      {effects : List (Effect ν)} :
      Turn as w effect bs later → Turns bs later effects cs last →
      Turns as w (effect.toList ++ effects) cs last

theorem Turns.pass {as bs : List (Activity ν α)} {w last : World ν} {effects : List (Effect ν)}
    (turns : Turns as w effects bs last) (a : Activity ν α) :
    Turns (a :: as) w effects (a :: bs) last := by
  induction turns with
  | stop => exact .stop
  | turn turn _ ih => exact .turn (.pass turn) ih

theorem Turns.trans {as bs cs : List (Activity ν α)} {w middle last : World ν}
    {effects effects' : List (Effect ν)} (first : Turns as w effects bs middle)
    (second : Turns bs middle effects' cs last) : Turns as w (effects ++ effects') cs last := by
  induction first with
  | stop => exact second
  | turn turn _ ih =>
    rw [List.append_assoc]
    exact .turn turn (ih second)

/-- After a turn the activities still end with a value if they did before. -/
theorem Turn.sure {as bs : List (Activity ν α)} {w later : World ν} {effect : Option (Effect ν)}
    (turn : Turn as w effect bs later) (sure : ∀ a ∈ as, a.Assures fun _ _ => True) :
    ∀ b ∈ bs, b.Assures fun _ _ => True := by
  induction turn with
  | @act effect next rest w =>
    obtain ⟨first, others⟩ := List.forall_mem_cons.1 sure
    exact List.forall_mem_cons.2 ⟨first w, others⟩
  | wait =>
    obtain ⟨first, others⟩ := List.forall_mem_cons.1 sure
    exact List.forall_mem_cons.2 ⟨first, others⟩
  | pass _ ih =>
    obtain ⟨first, others⟩ := List.forall_mem_cons.1 sure
    exact List.forall_mem_cons.2 ⟨first, ih others⟩

theorem Turns.sure {as bs : List (Activity ν α)} {w last : World ν} {effects : List (Effect ν)}
    (turns : Turns as w effects bs last) (sure : ∀ a ∈ as, a.Assures fun _ _ => True) :
    ∀ b ∈ bs, b.Assures fun _ _ => True := by
  induction turns with
  | stop => exact sure
  | turn turn _ ih => exact ih (turn.sure sure)

/-- One of several activities can take turns until it has ended. -/
theorem Turns.first {a : Activity ν α} (sure : a.Assures fun _ _ => True)
    (rest : List (Activity ν α)) (w : World ν) :
    ∃ effects value last, Turns (a :: rest) w effects (.done value :: rest) last := by
  induction a generalizing w with
  | done value => exact ⟨[], value, w, .stop⟩
  | panic _ | forever => exact sure.elim
  | act effect next ih =>
    obtain ⟨effects, value, last, turns⟩ := ih w (sure w) (effect.apply w)
    exact ⟨_, value, last, .turn .act turns⟩
  | wait instant next ih =>
    obtain ⟨effects, value, last, turns⟩ := ih sure (w.advance instant)
    exact ⟨_, value, last, .turn .wait turns⟩

/-- Activities that end with a value can take turns until all of them have ended. -/
theorem Turns.complete {as : List (Activity ν α)} (sure : ∀ a ∈ as, a.Assures fun _ _ => True)
    (w : World ν) :
    ∃ effects last, ∃ values : List α, Turns as w effects (values.map .done) last := by
  induction as generalizing w with
  | nil => exact ⟨[], w, [], .stop⟩
  | cons a rest ih =>
    obtain ⟨mine, others⟩ := List.forall_mem_cons.1 sure
    obtain ⟨effects, value, middle, first⟩ := Turns.first mine rest w
    obtain ⟨effects', last, values, second⟩ := ih others middle
    exact ⟨_, last, value :: values, first.trans (second.pass _)⟩

/-- Others may do anything. -/
def Anything (_ _ : World ν) : Prop := True

/-- In some company the activity does these deeds and ends with this value. -/
def MayDo (a : Activity ν α) (course : List (Deed ν) × α) : Prop :=
  ∃ w last, Course Anything a w course.1 (.done course.2 last)

/-- The effects of several courses. -/
def effectsOf (courses : List (List (Deed ν) × α)) : List (Effect ν) :=
  courses.flatMap fun course => course.1.map (·.effect)

/-- What activities may do after a turn, they may do before it together with the effect of it. -/
theorem Turn.mayDo {as bs : List (Activity ν α)} {w later : World ν} {effect : Option (Effect ν)}
    (turn : Turn as w effect bs later) {courses : List (List (Deed ν) × α)}
    (after : List.Forall₂ MayDo bs courses) :
    ∃ courses', List.Forall₂ MayDo as courses' ∧ courses'.map (·.2) = courses.map (·.2) ∧
      (effectsOf courses').Perm (effect.toList ++ effectsOf courses) := by
  induction turn generalizing courses with
  | @act effect next rest w =>
    rcases after with _ | ⟨⟨_, last, course⟩, others⟩
    exact ⟨(⟨w, effect⟩ :: _, _) :: _, .cons ⟨w, last, .act trivial course⟩ others, rfl, .refl _⟩
  | @wait instant next rest w =>
    rcases after with _ | ⟨⟨woken, last, course⟩, others⟩
    have idle : Anything w woken := trivial
    have slept : MayDo (.wait instant next) _ := ⟨w, last, .wait idle trivial course⟩
    exact ⟨_, .cons slept others, rfl, .refl _⟩
  | pass _ ih =>
    rcases after with _ | ⟨own, others⟩
    obtain ⟨courses', before, values, effects⟩ := ih others
    refine ⟨_ :: courses', .cons own before, by simp [values], ?_⟩
    exact (effects.append_left _).trans (List.perm_append_comm_assoc _ _ _)

/-- When activities have taken turns until all have ended, each has had a course of its own, and the
effects were those of the courses, in some order. -/
theorem Turns.mayDo {as bs : List (Activity ν α)} {w last : World ν} {effects : List (Effect ν)}
    (turns : Turns as w effects bs last) {values : List α} (ended : bs = values.map .done) :
    ∃ courses, List.Forall₂ MayDo as courses ∧ courses.map (·.2) = values ∧
      (effectsOf courses).Perm effects := by
  induction turns with
  | @stop _ w =>
    subst ended
    refine ⟨values.map fun value => ([], value), ?_, by simp [Function.comp_def], ?_⟩
    · rw [List.forall₂_map_left_iff, List.forall₂_map_right_iff]
      exact List.forall₂_same.2 fun value _ => ⟨w, w, .done⟩
    · simp [effectsOf]
  | turn turn _ ih =>
    obtain ⟨courses, after, same, effects⟩ := ih ended
    obtain ⟨courses', before, values, effects'⟩ := turn.mayDo after
    exact ⟨courses', before, values.trans same, effects'.trans (effects.append_left _)⟩

end Ingress.Activity
