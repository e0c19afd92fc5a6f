import Ingress.Activity.Limit
import Ingress.Activity.Together
import Ingress.Activity.Tracing
import Ingress.Proofs.Activity.Course

/-!
# Assurances

What holds of every course of an activity, whatever others do to the world meanwhile: the kinds of
effects that it may have, and what its effects and its value have in common when it is sure to end
with a value.
-/

namespace Ingress.Activity

variable {α β : Type}

/-- Every effect that the activity may have is of one kind. -/
def Only (p : Effect ν → Prop) : Activity ν α → Prop
  | act effect next => ∀ w, p effect ∧ Only p (next w)
  | wait _ next => Only p next
  | done _ | panic _ | forever => True

/-- The activity ends with a value, which together with the effects before it is as `post` says. -/
def Assures (post : List (Effect ν) → α → Prop) : Activity ν α → Prop
  | done value => post [] value
  | act effect next => ∀ w, Assures (fun effects => post (effect :: effects)) (next w)
  | wait _ next => Assures post next
  | panic _ | forever => False

variable {p : Effect ν → Prop} {post : List (Effect ν) → α → Prop}

/-- Of a course the effects are among those that the activity may have. -/
theorem Course.only {others : World ν → World ν → Prop} {a : Activity ν α} {w : World ν}
    {ds : List (Deed ν)} {e : Ending ν α} (course : Course others a w ds e) (only : a.Only p) :
    ∀ d ∈ ds, p d.effect := by
  induction course with
  | done | panic | forever => exact List.forall_mem_nil _
  | @act _ _ w _ _ _ _ _ ih => exact List.forall_mem_cons.2 ⟨(only w).1, ih (only w).2⟩
  | wait _ _ _ ih => exact ih only

/-- What the effects of an activity, its pauses and others keep is kept by a course. -/
theorem Course.invariant {P : World ν → Prop} {others : World ν → World ν → Prop}
    {a : Activity ν α} {w : World ν} {ds : List (Deed ν)} {e : Ending ν α}
    (course : Course others a w ds e) (acts : ∀ effect, p effect → ∀ w, P w → P (effect.apply w))
    (waits : ∀ w instant, P w → P (w.advance instant)) (stays : ∀ w w', others w w' → P w → P w')
    (only : a.Only p) (begins : P w) : P e.world := by
  induction course with
  | done | panic | forever => exact begins
  | @act _ _ w _ _ _ moved _ ih =>
    exact ih (only w).2 (stays _ _ moved (acts _ (only w).1 w begins))
  | wait moved moved' _ ih =>
    exact ih only (stays _ _ moved' (waits _ _ (stays _ _ moved begins)))

/-- A course of an activity ends as the activity assures. -/
theorem Course.assured {others : World ν → World ν → Prop} {a : Activity ν α} {w : World ν}
    {ds : List (Deed ν)} {e : Ending ν α} (course : Course others a w ds e)
    (assured : a.Assures post) :
    ∃ value last, e = .done value last ∧ post (ds.map (·.effect)) value := by
  induction course generalizing post with
  | done => exact ⟨_, _, rfl, assured⟩
  | panic | forever => exact assured.elim
  | act _ _ ih => exact ih (assured _)
  | wait _ _ _ ih => exact ih assured

/-- A course of an activity that ends with a value, followed by another, is a course of each. -/
theorem Course.split {others : World ν → World ν → Prop} {a : Activity ν β}
    {f : β → Activity ν α} {w : World ν} {ds : List (Deed ν)} {e : Ending ν α}
    {post : List (Effect ν) → β → Prop} (course : Course others (a.bind f) w ds e)
    (assured : a.Assures post) :
    ∃ value middle ds₁ ds₂, ds = ds₁ ++ ds₂ ∧ Course others a w ds₁ (.done value middle) ∧
      post (ds₁.map (·.effect)) value ∧ Course others (f value) middle ds₂ e := by
  obtain ⟨value, middle, ds₁, ds₂, whole, first, second⟩ :=
    course_bind_of_ends (fun _ _ first =>
      have ⟨value, last, same, _⟩ := first.assured assured
      ⟨value, last, same⟩) course
  obtain ⟨_, _, ⟨⟩, holds⟩ := first.assured assured
  exact ⟨value, middle, ds₁, ds₂, whole, first, holds, second⟩

theorem Assures.mono {stronger : List (Effect ν) → α → Prop} {a : Activity ν α}
    (assured : a.Assures stronger) (weaker : ∀ es value, stronger es value → post es value) :
    a.Assures post := by
  induction a generalizing stronger post with
  | done value => exact weaker [] value assured
  | panic _ | forever => exact assured
  | act effect next ih => exact fun w => ih w (assured w) fun es => weaker (effect :: es)
  | wait instant next ih => exact ih assured weaker

/-- What is assured happens in some course. -/
theorem Assures.exists {a : Activity ν α} (assured : a.Assures post) (w : World ν) :
    ∃ es value, post es value :=
  have ⟨_, _, _, holds⟩ := (course_run (fun w : World ν => Eq.refl w) a w).assured assured
  ⟨_, _, holds⟩

/-- An activity that assures effects of one kind may have no others. -/
theorem Assures.only {a : Activity ν α} (assured : a.Assures fun es _ => ∀ e ∈ es, p e) :
    a.Only p := by
  induction a with
  | done _ | panic _ | forever => trivial
  | act effect next ih =>
    intro w
    have ⟨es, _, all⟩ := (assured w).exists w
    exact ⟨all effect List.mem_cons_self,
      ih w ((assured w).mono fun _ _ all => (List.forall_mem_cons.1 all).2)⟩
  | wait instant next ih => exact ih assured

/-- What an activity followed by another assures is what the first one assures the second to. -/
theorem assures_bind {a : Activity ν β} {f : β → Activity ν α} :
    (a.bind f).Assures post ↔
      a.Assures fun es value => (f value).Assures fun es' => post (es ++ es') := by
  induction a generalizing post with
  | done _ | panic _ | forever => rfl
  | act effect next ih => exact forall_congr' fun w => ih w
  | wait instant next ih => exact ih

/-- Cut off at an instant, an activity that is sure to end with a value still is. -/
theorem assures_cutAt {a : Activity ν α} (only : a.Only p) (sure : a.Assures post)
    (instant : Nat) : (cutAt instant a).Assures fun es _ => ∀ e ∈ es, p e := by
  induction a generalizing post with
  | done _ => exact List.forall_mem_nil p
  | panic _ | forever => exact sure.elim
  | act effect next ih =>
    intro w
    refine (ih w (only w).2 (sure w)).mono fun es _ all => ?_
    exact List.forall_mem_cons.2 ⟨(only w).1, all⟩
  | wait t next ih =>
    unfold cutAt
    split
    · exact ih only sure
    · exact List.forall_mem_nil p

/-- Cut off at an instant and with its panics caught, any activity ends with a value. -/
theorem assures_cutAt_caught {a : Activity ν α} (only : a.Only p) (instant : Nat) :
    (cutAt instant a.caught).Assures fun es _ => ∀ e ∈ es, p e := by
  induction a with
  | done _ | panic _ | forever => exact List.forall_mem_nil p
  | act effect next ih =>
    intro w
    refine (ih w (only w).2).mono fun es _ all => ?_
    exact List.forall_mem_cons.2 ⟨(only w).1, all⟩
  | wait t next ih =>
    unfold caught cutAt
    split
    · exact ih only
    · exact List.forall_mem_nil p

theorem only_bind {a : Activity ν β} {f : β → Activity ν α} (first : a.Only p)
    (second : ∀ value, (f value).Only p) : (a.bind f).Only p := by
  induction a with
  | done value => exact second value
  | panic _ | forever => trivial
  | act effect next ih => exact fun w => ⟨(first w).1, ih w (first w).2⟩
  | wait instant next ih => exact ih first

theorem Only.mono {q : Effect ν → Prop} {a : Activity ν α} (only : a.Only p)
    (weaker : ∀ effect, p effect → q effect) : a.Only q := by
  induction a with
  | done _ | panic _ | forever => trivial
  | act effect next ih => exact fun w => ⟨weaker effect (only w).1, ih w (only w).2⟩
  | wait instant next ih => exact ih only

theorem only_true (a : Activity ν α) : a.Only fun _ => True := by
  induction a with
  | done _ | panic _ | forever => trivial
  | act effect next ih => exact fun w => ⟨trivial, ih w⟩
  | wait instant next ih => exact ih

theorem only_cutAt {a : Activity ν α} (only : a.Only p) (instant : Nat) :
    (cutAt instant a).Only p := by
  induction a with
  | done _ | panic _ | forever => trivial
  | act effect next ih => exact fun w => ⟨(only w).1, ih w (only w).2⟩
  | wait t next ih =>
    unfold cutAt
    split
    · exact ih only
    · trivial

theorem only_within {a : Activity ν α} (only : a.Only p) (look : p .look) (limit : Duration) :
    (within limit a).Only p :=
  only_bind (fun _ => ⟨look, trivial⟩) fun _ => only_cutAt only _

theorem sleep_assures (look : p .look) (length : Duration) :
    (sleep length : Activity ν Unit).Assures fun es _ => ∀ e ∈ es, p e := by
  unfold sleep
  split
  · exact List.forall_mem_nil p
  · exact fun _ => List.forall_mem_singleton.2 look

theorem only_sleep (look : p .look) (length : Duration) :
    (sleep length : Activity ν Unit).Only p := (sleep_assures look length).only

theorem only_beside {b : Activity ν β} (only : b.Only p) (instant : Nat)
    {resume : Activity ν β → Activity ν α} (resumed : ∀ b, b.Only p → (resume b).Only p) :
    (beside instant resume b).Only p := by
  induction b with
  | done value => exact resumed _ only
  | panic _ => trivial
  | act effect next ih => exact fun w => ⟨(only w).1, ih w (only w).2⟩
  | wait t next ih =>
    unfold beside
    split
    · exact resumed _ only
    · exact ih only
  | forever => exact resumed _ only

theorem only_both {a : Activity ν α} {b : Activity ν β} (first : a.Only p) (second : b.Only p) :
    (both a b).Only p := by
  induction a generalizing b with
  | done value => exact only_bind second fun _ => trivial
  | panic _ => trivial
  | act effect next ih => exact fun w => ⟨(first w).1, ih w (first w).2 second⟩
  | wait instant next ih => exact only_beside second instant fun b only => ih first only
  | forever => exact only_bind second fun _ => trivial

/-- Activities together have no effects but their own. -/
theorem only_all {as : List (Activity ν α)} (only : ∀ a ∈ as, a.Only p) : (all as).Only p := by
  induction as with
  | nil => trivial
  | cons a rest ih =>
    obtain ⟨first, others⟩ := List.forall_mem_cons.1 only
    exact only_bind (only_both first (ih others)) fun _ => trivial

@[simp] theorem assures_done {value : α} : (done value).Assures post ↔ post [] value := Iff.rfl

@[simp] theorem assures_ite {c : Prop} [Decidable c] {a b : Activity ν α} :
    (if c then a else b).Assures post ↔ if c then a.Assures post else b.Assures post := by
  split <;> rfl

section Single

variable {post : List (Effect ν) → Unit → Prop}

@[simp] theorem assures_cause {effect : Effect ν} :
    (cause effect).Assures post ↔ World ν → post [effect] () := Iff.rfl

@[simp] theorem assures_report {event : Log.Event} :
    (report event : Activity ν Unit).Assures post ↔ World ν → post [.report event] () := Iff.rfl

@[simp] theorem assures_setAttribute {span : SpanRef} {key : String} {value : Span.Attribute} :
    (setAttribute span key value : Activity ν Unit).Assures post ↔
      World ν → post [.touch span (.attribute key value)] () := Iff.rfl

@[simp] theorem assures_setStatus {span : SpanRef} {status : Span.Status} :
    (setStatus span status : Activity ν Unit).Assures post ↔
      World ν → post [.touch span (.status status)] () := Iff.rfl

@[simp] theorem assures_rename {span : SpanRef} {name : String} :
    (rename span name : Activity ν Unit).Assures post ↔
      World ν → post [.touch span (.name name)] () := Iff.rfl

@[simp] theorem assures_finish {span : SpanRef} :
    (finish span : Activity ν Unit).Assures post ↔ World ν → post [.finish span] () := Iff.rfl

@[simp] theorem assures_world {post : List (Effect ν) → World ν → Prop} :
    (world : Activity ν (World ν)).Assures post ↔ ∀ w, post [.look] w := Iff.rfl

end Single

end Ingress.Activity
