import Ingress.Proofs.Downstream.Attempt
import Ingress.Proofs.Downstream.Refusal
import Ingress.Proofs.Pipeline.Counting

/-!
# What calls do

A call works on spans, looks at the world, draws, reports, and sends its own request. It has no other
effects: it sends nothing else, and it counts nothing.
-/

namespace Ingress.Downstream

open Activity

namespace Call

/-- Work on spans, looks, draws and reports. -/
def Works : Effect ν → Prop
  | .look | .draw | .report _ | .branch _ _ | .touch _ _ | .finish _ => True
  | .send _ | .plant _ _ _ | .record _ | .app _ => False

/-- The effects that the call of a request may have. -/
def Does (request : Request) (e : Effect ν) : Prop := Works e ∨ e = .send request

theorem Works.sent?_eq_none {e : Effect ν} (works : Works e) : sent? e = none := by
  cases e with
  | send r => exact works.elim
  | _ => rfl

theorem Does.sent?_eq_some {request r : Request} {e : Effect ν} (does : Does request e)
    (sent : sent? e = some r) : r = request := by
  rcases does with works | rfl
  · rw [works.sent?_eq_none] at sent
    cases sent
  · exact (Option.some.inj sent).symm

/-- What a call does beside sending is allowed. -/
structure Allows (p : Effect ν → Prop) : Prop where
  look : p .look
  draw : p .draw
  branch : ∀ parent name, p (.branch parent name)
  touch : ∀ span change, p (.touch span change)
  finish : ∀ span, p (.finish span)
  retried : ∀ trace url number delay, p (.report (.callRetried trace url number delay))
  failed : ∀ trace method url number, p (.report (.callFailed trace method url number))

theorem allows_works : Allows (Works : Effect ν → Prop) := by constructor <;> intros <;> trivial

theorem allows_does (request : Request) : Allows (Does request : Effect ν → Prop) := by
  constructor <;> intros <;> exact .inl trivial

section Only

variable {p : Effect ν → Prop} (allows : Allows p)
include allows

variable (policy : Retry.Policy) (request : Request) (span : SpanRef) (number : Nat)

theorem only_tryOnce (send : p (.send request)) :
    (tryOnce policy request span number : Activity ν _).Only p := by
  refine only_bind (only_attempt allows.look send) fun outcome => ?_
  refine only_bind (fun _ => ⟨allows.touch _ _, trivial⟩) fun _ => ?_
  split
  · exact fun _ => ⟨allows.touch _ _, trivial⟩
  · trivial

theorem only_pause : (pause policy request span number : Activity ν Unit).Only p := by
  have slept (delay : Duration) : (sleep delay : Activity ν Unit).Only p :=
    only_sleep allows.look delay
  have noted (trace : String) (delay : Nat) (next : Activity ν Unit) (only : next.Only p) :
      (act (.report (.callRetried trace request.url number delay)) fun _ => next).Only p :=
    fun _ => ⟨allows.retried _ _ _ _, only⟩
  unfold pause
  dsimp only
  split
  · exact fun _ => ⟨allows.look, fun _ => ⟨allows.touch _ _, noted _ _ _ (slept _)⟩⟩
  · exact fun _ => ⟨allows.draw, fun _ => ⟨allows.touch _ _, noted _ _ _ (slept _)⟩⟩

theorem only_giveUp (outcome : Outcome) :
    (giveUp request span number outcome : Activity ν _).Only p :=
  fun _ => ⟨allows.touch _ _, fun _ => ⟨allows.look, fun _ => ⟨allows.failed _ _ _ _, trivial⟩⟩⟩

theorem only_attempts (send : p (.send request)) (more : Nat) :
    (attempts policy request span number more : Activity ν _).Only p := by
  induction more generalizing number with
  | zero =>
    refine only_bind (only_tryOnce allows policy request span number send) fun tried => ?_
    split
    · trivial
    · exact only_giveUp allows request span number _
  | succ more ih =>
    refine only_bind (only_tryOnce allows policy request span number send) fun tried => ?_
    split
    · trivial
    · split
      · exact only_bind (only_pause allows policy request span number) fun _ => ih (number + 1)
      · exact only_giveUp allows request span number _

theorem only_conclude (result : Except Failure Response) :
    (conclude span result : Activity ν Unit).Only p := by
  cases result with
  | ok response => exact fun _ => ⟨allows.touch _ _, fun _ => ⟨allows.touch _ _, trivial⟩⟩
  | error failure =>
    dsimp only [conclude]
    split
    · exact fun _ => ⟨allows.touch _ _, fun _ => ⟨allows.touch _ _, trivial⟩⟩
    · exact fun _ => ⟨allows.touch _ _, trivial⟩

theorem only_run_of_allows (send : p (.send request)) (parent : SpanRef) :
    (run policy parent request : Activity ν _).Only p := by
  refine only_bind (fun _ => ⟨allows.branch _ _, trivial⟩) fun started => ?_
  split
  · trivial
  · refine only_bind (fun _ => ⟨allows.touch _ _, trivial⟩) fun _ => ?_
    refine only_bind (fun _ => ⟨allows.touch _ _, trivial⟩) fun _ => ?_
    refine only_bind (only_attempts allows policy request _ 1 send _) fun result => ?_
    refine only_bind (only_conclude allows _ result) fun _ => ?_
    exact fun _ => ⟨allows.finish _, trivial⟩

end Only

theorem only_run (policy : Retry.Policy) (request : Request) (parent : SpanRef) :
    (run policy parent request : Activity ν _).Only (Does request) :=
  only_run_of_allows (allows_does request) policy request (.inr rfl) parent

theorem Does.countsNothing {request : Request} {e : Effect ν} (does : Does request e) :
    e.CountsNothing := by
  rcases does with works | rfl
  · cases e with
    | record sample => exact works.elim
    | _ => rfl
  · rfl

end Call

open Effect

theorem quiet_run (policy : Retry.Policy) (request : Request) (parent : SpanRef) :
    (Call.run policy parent request : Activity ν _).Only CountsNothing :=
  (Call.only_run policy request parent).mono fun _ does => does.countsNothing

theorem quiet_propagate (c : Context) (headers : Headers) :
    (c.propagate headers : Activity ν Headers).Only CountsNothing :=
  (c.propagate_assures (fun _ => rfl) headers).only

theorem quiet_send (request : Request) (client : Client) :
    (client.send request : Activity ν _).Only CountsNothing :=
  only_bind (quiet_propagate client.context _) fun _ => quiet_run client.policy _ client.parent

end Ingress.Downstream
