import Ingress.Activity.Basic

/-!
# Limits

An activity can be cut off at an instant. What is due at that very instant still happens; of all
that would come later nothing does.
-/

namespace Ingress.Activity

/-- The activity up to an instant; no value if it has not ended by then. -/
def cutAt (instant : Nat) : Activity ν α → Activity ν (Option α)
  | done value => done (some value)
  | panic cause => panic cause
  | act effect next => act effect fun w => cutAt instant (next w)
  | wait t next =>
    if t ≤ instant then wait t (cutAt instant next) else wait instant (done none)
  | forever => wait instant (done none)

/-- The activity for at most some time. -/
def within (limit : Duration) (a : Activity ν α) : Activity ν (Option α) := do
  let w ← world
  cutAt (Clock.due w.now limit) a

/-- The activity for at most some time, if a limit is given. -/
def withinOption (limit : Option Duration) (a : Activity ν α) : Activity ν (Option α) :=
  match limit with
  | some limit => within limit a
  | none => a.bind fun value => done (some value)

end Ingress.Activity
