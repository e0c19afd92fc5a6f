/-!
# Computations that may fail

A chain of computations gives a result exactly if each of its steps does.
-/

namespace Ingress.Fallible

variable {ε ε' α β : Type}

theorem bind_eq_ok_iff {x : Except ε α} {f : α → Except ε β} {b : β} :
    (x >>= f) = .ok b ↔ ∃ a, x = .ok a ∧ f a = .ok b := by
  cases x <;> simp [Bind.bind, Except.bind]

theorem pure_eq_ok_iff {a b : α} : (pure a : Except ε α) = .ok b ↔ a = b :=
  ⟨Except.ok.inj, congrArg Except.ok⟩

theorem map_eq_ok_iff {x : Except ε α} {f : α → β} {b : β} :
    (f <$> x) = .ok b ↔ ∃ a, x = .ok a ∧ f a = b := by
  cases x <;> simp [Functor.map, Except.map]

theorem mapError_eq_ok_iff {f : ε → ε'} {x : Except ε α} {a : α} :
    x.mapError f = .ok a ↔ x = .ok a := by
  cases x with
  | error e => exact ⟨nofun, nofun⟩
  | ok b =>
    constructor
    · intro same
      exact congrArg Except.ok (Except.ok.inj same)
    · intro same
      exact congrArg Except.ok (Except.ok.inj same)

theorem bind_eq_error_iff {x : Except ε α} {f : α → Except ε β} {e : ε} :
    (x >>= f) = .error e ↔ x = .error e ∨ ∃ a, x = .ok a ∧ f a = .error e := by
  cases x <;> simp [Bind.bind, Except.bind]

theorem map_eq_error_iff {x : Except ε α} {f : α → β} {e : ε} :
    (f <$> x) = .error e ↔ x = .error e := by
  cases x <;> simp [Functor.map, Except.map]

theorem mapError_eq_error_iff {f : ε → ε'} {x : Except ε α} {e' : ε'} :
    x.mapError f = .error e' ↔ ∃ e, x = .error e ∧ f e = e' := by
  cases x with
  | error e =>
    constructor
    · intro same
      exact ⟨e, rfl, Except.error.inj same⟩
    · rintro ⟨_, ⟨⟩, told⟩
      exact congrArg Except.error told
  | ok b =>
    constructor
    · intro same
      cases same
    · rintro ⟨_, ⟨⟩, -⟩

/-- What holds at the start and is kept by every step that succeeds holds at the end. -/
theorem foldlM_induction {motive : β → Prop} {step : β → α → Except ε β} {as : List α} {b b' : β}
    (start : motive b) (keeps : ∀ a ∈ as, ∀ b b', motive b → step b a = .ok b' → motive b')
    (done : as.foldlM step b = .ok b') : motive b' := by
  induction as generalizing b with
  | nil =>
    rw [List.foldlM_nil, pure_eq_ok_iff] at done
    exact done ▸ start
  | cons a as ih =>
    obtain ⟨first, others⟩ := List.forall_mem_cons.1 keeps
    rw [List.foldlM_cons, bind_eq_ok_iff] at done
    obtain ⟨middle, stepped, done⟩ := done
    exact ih (first b middle start stepped) others done

/-- Where a run fails one of its steps does. -/
theorem exists_of_foldlM_eq_error {step : β → α → Except ε β} {as : List α} {b : β} {e : ε}
    (failed : as.foldlM step b = .error e) : ∃ a ∈ as, ∃ b, step b a = .error e := by
  induction as generalizing b with
  | nil => cases failed
  | cons a as ih =>
    rw [List.foldlM_cons, bind_eq_error_iff] at failed
    obtain failed | ⟨middle, -, failed⟩ := failed
    · exact ⟨a, List.mem_cons_self, b, failed⟩
    · obtain ⟨later, among, failed⟩ := ih failed
      exact ⟨later, List.mem_cons_of_mem a among, failed⟩

end Ingress.Fallible
