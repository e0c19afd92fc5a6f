import Ingress.Context
import Ingress.Proofs.Activity.Assurance

/-!
# Settings of a context

What a handler can set on a context. Whatever is set, the context keeps its trace and its root; some
of it is noted on the root span, and nothing else happens.
-/

namespace Ingress

open Activity

/-- Changes of a span, one after the other. -/
def Activity.touches (span : SpanRef) : List Span.Change → Activity ν Unit
  | [] => done ()
  | change :: rest => .act (.touch span change) fun _ => touches span rest

namespace Context

/-- One thing that is set on a context. -/
inductive Setting
  | method (value : String)
  | path (value : String)
  | route (value : Route)
  | identity (value : Identity)
  | authorization (value : ByteArray)
  | deadline (granted : Duration)

namespace Setting

/-- Sets it. -/
def set : Setting → Context → Activity ν Context
  | method value, c => c.withMethod value
  | path value, c => c.withPath value
  | route value, c => c.withRoute value
  | identity value, c => c.withIdentity value
  | authorization value, c => pure { c with authorization := some value }
  | deadline granted, c => pure { c with granted := some granted }

/-- The context on which it is set. -/
def put : Setting → Context → Context
  | method value, c => { c with method := value }
  | path value, c => { c with path := value }
  | route value, c => { c with route := some value }
  | identity value, c => { c with identity := some value }
  | authorization value, c => { c with authorization := some value }
  | deadline granted, c => { c with granted := some granted }

/-- What is noted of it on the root span. -/
def notes : Setting → List Span.Change
  | method value => [.attribute "http.method" (.text value)]
  | path value => [.attribute "http.target" (.text value)]
  | route value =>
    [.name (value.method ++ " " ++ value.template), .attribute "http.route" (.text value.template)]
  | identity value => [.attribute "enduser.id" (.text value.logId)]
  | authorization _ | deadline _ => []

/-- The credentials that it sets. -/
def authorization? : Setting → Option ByteArray
  | authorization value => some value
  | _ => none

variable (s : Setting) (c : Context)

theorem set_eq : (s.set c : Activity ν Context) =
    (touches c.root s.notes).bind fun _ => done (s.put c) := by
  cases s <;> rfl

@[simp] theorem traceId_put : (s.put c).traceId = c.traceId := by cases s <;> rfl

@[simp] theorem root_put : (s.put c).root = c.root := by cases s <;> rfl

theorem authorization_put :
    (s.put c).authorization = s.authorization?.or c.authorization := by
  cases s <;> rfl

theorem set_assures : (s.set c : Activity ν Context).Assures fun _ c' => c' = s.put c := by
  cases s <;> simp [set, put, withMethod, withPath, withRoute, withIdentity, assures_bind]

end Setting

/-- Sets one thing after the other. -/
def settle : List Setting → Context → Activity ν Context
  | [], c => pure c
  | s :: rest, c => do settle rest (← s.set c)

theorem settle_assures (settings : List Setting) (c : Context) :
    (settle settings c : Activity ν Context).Assures fun _ c' =>
      c' = settings.foldl (fun c s => s.put c) c := by
  induction settings generalizing c with
  | nil => rfl
  | cons s rest ih =>
    simp only [settle, bind_eq, assures_bind]
    refine (s.set_assures c).mono fun _ c' same => ?_
    subst same
    exact ih (s.put c)

/-- The last credentials that are set count. -/
theorem authorization_foldl (settings : List Setting) (c : Context) :
    (settings.foldl (fun c s => s.put c) c).authorization =
      ((settings.filterMap Setting.authorization?).getLast?).or c.authorization := by
  induction settings generalizing c with
  | nil => rfl
  | cons s rest ih =>
    rw [List.foldl_cons, ih, Setting.authorization_put]
    cases given : s.authorization? with
    | none => simp [given]
    | some value => simp [given, List.getLast?_cons, Option.or_some]

theorem traceId_foldl (settings : List Setting) (c : Context) :
    (settings.foldl (fun c s => s.put c) c).traceId = c.traceId := by
  induction settings generalizing c with
  | nil => rfl
  | cons s rest ih => rw [List.foldl_cons, ih, Setting.traceId_put]

end Context

end Ingress
