import Ingress.Activity.Basic

/-!
# Courses of activities

An activity shares its world with others. They may change the world whenever the activity has had an
effect and while it waits. A course tells what the activity itself did and how it ended; a course
alone in the world is what `run` computes.
-/

namespace Ingress.Activity

variable {α β : Type}

@[simp] theorem bind_eq (a : Activity ν α) (f : α → Activity ν β) : (a >>= f) = a.bind f := rfl

@[simp] theorem pure_eq (value : α) : (pure value : Activity ν α) = done value := rfl

theorem bind_assoc (a : Activity ν α) (f : α → Activity ν β) (g : β → Activity ν γ) :
    (a.bind f).bind g = a.bind fun value => (f value).bind g := by
  induction a with
  | done _ | panic _ | forever => rfl
  | act effect next ih => exact congrArg (act effect) (funext ih)
  | wait instant next ih => exact congrArg (wait instant) ih

/-- An effect with the world that it met. -/
structure Deed (ν : Type) where
  met : World ν
  effect : Effect ν

/-- A course of an activity: the world in which it begins, its deeds, and its ending. The relation
`others` tells what others may do to the world between its steps and during its pauses. -/
inductive Course (others : World ν → World ν → Prop) :
    Activity ν α → World ν → List (Deed ν) → Ending ν α → Prop
  | done {value : α} {w : World ν} : Course others (.done value) w [] (.done value w)
  | panic {cause : Panic} {w : World ν} : Course others (.panic cause) w [] (.panicked cause w)
  | forever {w : World ν} : Course others .forever w [] (.never w)
  | act {effect : Effect ν} {next : World ν → Activity ν α} {w later : World ν}
      {deeds : List (Deed ν)} {ending : Ending ν α} :
      others (effect.apply w) later → Course others (next w) later deeds ending →
      Course others (.act effect next) w (⟨w, effect⟩ :: deeds) ending
  | wait {instant : Nat} {next : Activity ν α} {w before later : World ν}
      {deeds : List (Deed ν)} {ending : Ending ν α} :
      others w before → others (before.advance instant) later →
      Course others next later deeds ending → Course others (.wait instant next) w deeds ending

/-- What happens in some company happens in any that may do more. -/
theorem Course.mono {others others' : World ν → World ν → Prop} {a : Activity ν α} {w : World ν}
    {ds : List (Deed ν)} {e : Ending ν α} (course : Course others a w ds e)
    (more : ∀ w w', others w w' → others' w w') : Course others' a w ds e := by
  induction course with
  | done => exact .done
  | panic => exact .panic
  | forever => exact .forever
  | act moved _ ih => exact .act (more _ _ moved) ih
  | wait moved moved' _ ih => exact .wait (more _ _ moved) (more _ _ moved') ih

/-- The deeds of an activity that is alone in its world. -/
def deeds : Activity ν α → World ν → List (Deed ν)
  | act effect next, w => ⟨w, effect⟩ :: deeds (next w) (effect.apply w)
  | wait instant next, w => deeds next (w.advance instant)
  | _, _ => []

/-- The course of an activity that is alone, wherever others may also do nothing. -/
theorem course_run {others : World ν → World ν → Prop} (idle : ∀ w, others w w)
    (a : Activity ν α) (w : World ν) : Course others a w (a.deeds w) (a.run w) := by
  induction a generalizing w with
  | done _ => exact .done
  | panic _ => exact .panic
  | forever => exact .forever
  | act effect next ih => exact .act (idle _) (ih w _)
  | wait instant next ih => exact .wait (idle _) (idle _) (ih _)

/-- Where nobody else does anything there is no other course. -/
theorem course_eq_iff {a : Activity ν α} {w : World ν} {ds : List (Deed ν)} {e : Ending ν α} :
    Course Eq a w ds e ↔ ds = a.deeds w ∧ e = a.run w := by
  constructor
  · intro course
    induction course with
    | done | panic | forever => exact ⟨rfl, rfl⟩
    | act same _ ih =>
      subst same
      exact ⟨congrArg _ ih.1, ih.2⟩
    | wait same same' _ ih =>
      subst same same'
      exact ih
  · rintro ⟨rfl, rfl⟩
    exact course_run (fun _ => rfl) a w

section Inversion

variable {others : World ν → World ν → Prop} {w : World ν} {ds : List (Deed ν)}

@[simp] theorem course_done_iff {value : α} {e : Ending ν α} :
    Course others (done value) w ds e ↔ ds = [] ∧ e = .done value w := by
  constructor
  · rintro ⟨⟩
    exact ⟨rfl, rfl⟩
  · rintro ⟨rfl, rfl⟩
    exact .done

theorem course_act_iff {effect : Effect ν} {next : World ν → Activity ν α} {e : Ending ν α} :
    Course others (act effect next) w ds e ↔
      ∃ later rest, ds = ⟨w, effect⟩ :: rest ∧ others (effect.apply w) later ∧
        Course others (next w) later rest e := by
  constructor
  · rintro (_ | _ | _ | ⟨moved, course⟩)
    exact ⟨_, _, rfl, moved, course⟩
  · rintro ⟨later, rest, rfl, moved, course⟩
    exact .act moved course

theorem course_wait_iff {instant : Nat} {next : Activity ν α} {e : Ending ν α} :
    Course others (wait instant next) w ds e ↔
      ∃ before later, others w before ∧ others (before.advance instant) later ∧
        Course others next later ds e := by
  constructor
  · rintro (_ | _ | _ | _ | ⟨moved, moved', course⟩)
    exact ⟨_, _, moved, moved', course⟩
  · rintro ⟨before, later, moved, moved', course⟩
    exact .wait moved moved' course

@[simp] theorem course_forever_iff {e : Ending ν α} :
    Course others forever w ds e ↔ ds = [] ∧ e = .never w := by
  constructor
  · rintro ⟨⟩
    exact ⟨rfl, rfl⟩
  · rintro ⟨rfl, rfl⟩
    exact .forever

/-- A course of one activity after another is a course of each, unless the first has no value. -/
theorem course_bind {a : Activity ν α} {f : α → Activity ν β} {e : Ending ν β}
    (course : Course others (a.bind f) w ds e) :
    (∃ value middle ds₁ ds₂, ds = ds₁ ++ ds₂ ∧ Course others a w ds₁ (.done value middle) ∧
        Course others (f value) middle ds₂ e) ∨
      (∃ cause last, Course others a w ds (.panicked cause last) ∧ e = .panicked cause last) ∨
      ∃ last, Course others a w ds (.never last) ∧ e = .never last := by
  induction a generalizing w ds with
  | done value => exact .inl ⟨value, w, [], ds, rfl, .done, course⟩
  | panic cause =>
    cases course
    exact .inr (.inl ⟨cause, w, .panic, rfl⟩)
  | forever =>
    cases course
    exact .inr (.inr ⟨w, .forever, rfl⟩)
  | act effect next ih =>
    rcases course with _ | _ | _ | ⟨moved, course⟩
    rcases ih w course with ⟨value, middle, ds₁, ds₂, rfl, first, second⟩ |
      ⟨cause, last, first, rfl⟩ | ⟨last, first, rfl⟩
    · exact .inl ⟨value, middle, _ :: ds₁, ds₂, rfl, .act moved first, second⟩
    · exact .inr (.inl ⟨cause, last, .act moved first, rfl⟩)
    · exact .inr (.inr ⟨last, .act moved first, rfl⟩)
  | wait instant next ih =>
    rcases course with _ | _ | _ | _ | ⟨moved, moved', course⟩
    rcases ih course with ⟨value, middle, ds₁, ds₂, rfl, first, second⟩ |
      ⟨cause, last, first, rfl⟩ | ⟨last, first, rfl⟩
    · exact .inl ⟨value, middle, ds₁, ds₂, rfl, .wait moved moved' first, second⟩
    · exact .inr (.inl ⟨cause, last, .wait moved moved' first, rfl⟩)
    · exact .inr (.inr ⟨last, .wait moved moved' first, rfl⟩)

theorem course_bind_of_ends {a : Activity ν α} {f : α → Activity ν β} {e : Ending ν β}
    (ends : ∀ ds e, Course others a w ds e → ∃ value last, e = .done value last)
    (course : Course others (a.bind f) w ds e) :
    ∃ value middle ds₁ ds₂, ds = ds₁ ++ ds₂ ∧ Course others a w ds₁ (.done value middle) ∧
      Course others (f value) middle ds₂ e := by
  rcases course_bind course with split | ⟨cause, last, first, -⟩ | ⟨last, first, -⟩
  · exact split
  · obtain ⟨_, _, ⟨⟩⟩ := ends _ _ first
  · obtain ⟨_, _, ⟨⟩⟩ := ends _ _ first

theorem course_bind_done {a : Activity ν α} {f : α → Activity ν β} {value : β} {last : World ν}
    (course : Course others (a.bind f) w ds (.done value last)) :
    ∃ first middle ds₁ ds₂, ds = ds₁ ++ ds₂ ∧ Course others a w ds₁ (.done first middle) ∧
      Course others (f first) middle ds₂ (.done value last) := by
  rcases course_bind course with split | ⟨_, _, _, ⟨⟩⟩ | ⟨_, _, ⟨⟩⟩
  exact split

end Inversion

end Ingress.Activity
