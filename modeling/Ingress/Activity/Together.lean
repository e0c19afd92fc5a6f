import Ingress.Activity.Basic

/-!
# Activities together

Activities that share the world take turns. Each runs until it waits; when several are due at one
instant, the earlier one in the list goes first. All of them have ended when the last one has, and a
panic of one ends all at once.
-/

namespace Ingress.Activity

/-- A second activity while the first one waits for an instant; `resume` is the rest of the first
one beside what is left of the second. -/
def beside (instant : Nat) (resume : Activity ν β → Activity ν γ) : Activity ν β → Activity ν γ
  | done value => wait instant (resume (done value))
  | panic cause => panic cause
  | act effect next => act effect fun w => beside instant resume (next w)
  | wait t next =>
    if instant ≤ t then wait instant (resume (wait t next)) else wait t (beside instant resume next)
  | forever => wait instant (resume forever)

/-- Two activities together. -/
def both : Activity ν α → Activity ν β → Activity ν (α × β)
  | done value, b => b.bind fun other => done (value, other)
  | panic cause, _ => panic cause
  | act effect next, b => act effect fun w => both (next w) b
  | wait instant next, b => beside instant (fun b => both next b) b
  | forever, b => b.bind fun _ => forever

/-- Several activities together. -/
def all : List (Activity ν α) → Activity ν (List α)
  | [] => done []
  | a :: rest => (both a (all rest)).bind fun p => done (p.1 :: p.2)

end Ingress.Activity
