import Ingress.Time.Clock
import Ingress.World

/-!
# Activities

An activity is something that happens in time: it has effects on the world, waits for instants, and
ends with a value or with a panic, or never. How it goes on after an effect depends on the world
that the effect met. Between two effects of one activity no time passes unless it waits.
-/

namespace Ingress

/-- How a panic was raised. -/
inductive Panic
  /-- With a message. -/
  | message (text : String)
  /-- With some other value. -/
  | other
deriving DecidableEq

/-- The message of a panic. -/
def Panic.display : Panic → String
  | .message text => text
  | .other => "handler panicked"

/-- Something that happens in time. -/
inductive Activity (ν : Type) (α : Type)
  /-- The end, with a value. -/
  | done (value : α)
  /-- The end, by a panic. -/
  | panic (cause : Panic)
  /-- An effect; what follows depends on the world before it. -/
  | act (effect : Effect ν) (next : World ν → Activity ν α)
  /-- A pause until an instant of the clock. -/
  | wait (instant : Nat) (next : Activity ν α)
  /-- A pause without an end. -/
  | forever

namespace Activity

/-- How an activity ended. -/
inductive Ending (ν : Type) (α : Type)
  | done (value : α) (world : World ν)
  | panicked (cause : Panic) (world : World ν)
  /-- It waits for ever; this is the world as it left it. -/
  | never (world : World ν)

/-- The world at the end. -/
def Ending.world : Ending ν α → World ν
  | .done _ w => w
  | .panicked _ w => w
  | .never w => w

/-- Lets an activity run, alone in its world, to its end. -/
def run : Activity ν α → World ν → Ending ν α
  | done value, w => .done value w
  | panic cause, w => .panicked cause w
  | act effect next, w => run (next w) (effect.apply w)
  | wait instant next, w => run next (w.advance instant)
  | forever, w => .never w

/-- Goes on with the value of an activity. -/
def bind : Activity ν α → (α → Activity ν β) → Activity ν β
  | done value, f => f value
  | panic cause, _ => panic cause
  | act effect next, f => act effect fun w => bind (next w) f
  | wait instant next, f => wait instant (bind next f)
  | forever, _ => forever

instance : Monad (Activity ν) where
  pure := done
  bind := bind

/-- Ends with a panic as with a value. -/
def caught : Activity ν α → Activity ν (Except Panic α)
  | done value => done (.ok value)
  | panic cause => done (.error cause)
  | act effect next => act effect fun w => caught (next w)
  | wait instant next => wait instant (caught next)
  | forever => forever

/-- One effect; its value is the world before it. -/
def perform (effect : Effect ν) : Activity ν (World ν) := act effect done

/-- One effect whose world does not matter. -/
def cause (effect : Effect ν) : Activity ν Unit := act effect fun _ => done ()

/-- A look at the world. -/
def world : Activity ν (World ν) := perform .look

/-- Reports an event. -/
def report (event : Log.Event) : Activity ν Unit := cause (.report event)

/-- A pause of some length; no length is no pause. -/
def sleep (length : Duration) : Activity ν Unit :=
  if length.nanos = 0 then done ()
  else act .look fun w => wait (Clock.due w.now length) (done ())

theorem run_bind (a : Activity ν α) (f : α → Activity ν β) (w : World ν) :
    (a.bind f).run w =
      match a.run w with
      | .done value w => (f value).run w
      | .panicked cause w => .panicked cause w
      | .never w => .never w := by
  induction a generalizing w with
  | done _ => rfl
  | panic _ => rfl
  | act _ _ ih => exact ih _ _
  | wait _ _ ih => exact ih _
  | forever => rfl

end Activity

end Ingress
