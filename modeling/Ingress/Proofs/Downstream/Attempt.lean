import Ingress.Downstream.Call
import Ingress.Proofs.Activity.Assurance

/-!
# Attempts

One attempt of a call sends its request once. What comes of it is the network's reply to it, if that
comes in time, and otherwise a failure that says that the attempt took too long. Only without a
limit an attempt may wait for ever.
-/

namespace Ingress.Downstream

open Activity

/-- The request that an effect sends. -/
def sent? : Effect ν → Option Request
  | .send request => some request
  | _ => none

/-- The requests that an activity sent, in order. -/
def sendings (ds : List (Deed ν)) : List Request := ds.filterMap fun d => sent? d.effect

@[simp] theorem sendings_append (ds ds' : List (Deed ν)) :
    sendings (ds ++ ds') = sendings ds ++ sendings ds' := List.filterMap_append

theorem sendings_eq_nil {others : World ν → World ν → Prop} {a : Activity ν α} {w : World ν}
    {ds : List (Deed ν)} {e : Ending ν α} (course : Course others a w ds e)
    (only : a.Only fun effect => sent? effect = none) : sendings ds = [] := by
  refine List.filterMap_eq_nil_iff.2 fun d member => ?_
  exact course.only only d member

namespace Call

/-- What the deeds of an attempt come to: the outcome that the network replies with to the one
sending, unless the limit that was set before it runs out first. -/
inductive ComesTo (policy : Retry.Policy) (request : Request) : List (Deed ν) → Outcome → Prop
  /-- There is no limit. -/
  | unlimited {sending : World ν} {waits : List (Deed ν)} {delay : Nat} {outcome : Outcome} :
      policy.attemptTimeout = none → sending.network.reply request = .after delay outcome →
      sendings waits = [] → ComesTo policy request (⟨sending, .send request⟩ :: waits) outcome
  /-- The reply comes at once. -/
  | atOnce {began sending : World ν} {limit : Duration} {outcome : Outcome} :
      policy.attemptTimeout = some limit → sending.network.reply request = .after 0 outcome →
      ComesTo policy request [⟨began, .look⟩, ⟨sending, .send request⟩] outcome
  /-- The reply comes before the limit runs out, or at the same instant. -/
  | inTime {began sending asked : World ν} {limit : Duration} {delay : Nat} {outcome : Outcome} :
      policy.attemptTimeout = some limit → sending.network.reply request = .after delay outcome →
      Clock.due asked.now (.ofMillis delay) ≤ Clock.due began.now limit →
      ComesTo policy request [⟨began, .look⟩, ⟨sending, .send request⟩, ⟨asked, .look⟩] outcome
  /-- The reply would come too late. -/
  | late {began sending asked : World ν} {limit : Duration} {delay : Nat} {outcome : Outcome} :
      policy.attemptTimeout = some limit → sending.network.reply request = .after delay outcome →
      Clock.due began.now limit < Clock.due asked.now (.ofMillis delay) →
      ComesTo policy request [⟨began, .look⟩, ⟨sending, .send request⟩, ⟨asked, .look⟩]
        (overdue limit)
  /-- There is no reply. -/
  | unanswered {began sending : World ν} {limit : Duration} :
      policy.attemptTimeout = some limit → sending.network.reply request = .never →
      ComesTo policy request [⟨began, .look⟩, ⟨sending, .send request⟩] (overdue limit)

/-- The deeds of an attempt that waits for ever: its request was sent, without a limit, and there is
no reply. -/
def HangsAfter (policy : Retry.Policy) (request : Request) (ds : List (Deed ν)) : Prop :=
  policy.attemptTimeout = none ∧
    ∃ sending : World ν, ds = [⟨sending, .send request⟩] ∧ sending.network.reply request = .never

variable {others : World ν → World ν → Prop} {policy : Retry.Policy} {request : Request}
  {w : World ν} {ds : List (Deed ν)}

/-- An attempt sends its request once. -/
theorem ComesTo.sendings {outcome : Outcome} (comes : ComesTo policy request ds outcome) :
    sendings ds = [request] := by
  cases comes with
  | unlimited _ _ quiet => exact congrArg (request :: ·) quiet
  | atOnce | inTime | late | unanswered => rfl

/-- What is left of an attempt when its request is sent. -/
def awaiting : Reply → Activity ν Outcome
  | .never => .forever
  | .after delay outcome => (sleep (.ofMillis delay)).bind fun _ => done outcome

theorem exchange_eq : (exchange request : Activity ν Outcome) =
    .act (.send request) fun w => awaiting (w.network.reply request) := by
  refine congrArg (Activity.act _) (funext fun w => ?_)
  dsimp only [Activity.bind]
  cases w.network.reply request <;> rfl

theorem awaiting_zero (outcome : Outcome) :
    (awaiting (.after 0 outcome) : Activity ν Outcome) = .done outcome := by
  rw [awaiting, sleep, if_pos (Duration.nanos_ofMillis_eq_zero.2 rfl)]
  rfl

theorem awaiting_succ (delay : Nat) (outcome : Outcome) :
    (awaiting (.after (delay + 1) outcome) : Activity ν Outcome) =
      .act .look fun w => .wait (Clock.due w.now (.ofMillis (delay + 1))) (.done outcome) := by
  have delayed := mt Duration.nanos_ofMillis_eq_zero.1 (Nat.succ_ne_zero delay)
  rw [awaiting, sleep, if_neg delayed]
  rfl

/-- Without a limit the reply is awaited, however long it takes. -/
theorem course_awaiting {reply : Reply} {e : Ending ν Outcome}
    (course : Course others (awaiting reply) w ds e) :
    sendings ds = [] ∧ ((reply = .never ∧ ds = [] ∧ ∃ last, e = .never last) ∨
      ∃ delay outcome last, reply = .after delay outcome ∧ e = .done outcome last) := by
  rcases reply with _ | ⟨_ | delay, outcome⟩
  · obtain ⟨rfl, rfl⟩ := course_forever_iff.1 course
    exact ⟨rfl, .inl ⟨rfl, rfl, w, rfl⟩⟩
  · rw [awaiting_zero] at course
    obtain ⟨rfl, rfl⟩ := course_done_iff.1 course
    exact ⟨rfl, .inr ⟨0, outcome, w, rfl, rfl⟩⟩
  · rw [awaiting_succ] at course
    obtain ⟨_, rest, rfl, -, course⟩ := course_act_iff.1 course
    obtain ⟨_, last, -, -, course⟩ := course_wait_iff.1 course
    obtain ⟨rfl, rfl⟩ := course_done_iff.1 course
    exact ⟨rfl, .inr ⟨delay + 1, outcome, last, rfl, rfl⟩⟩

/-- An attempt under a limit, from the instant at which the limit is set. -/
theorem course_cutAt_exchange (began : World ν) {limit : Duration} {e : Ending ν (Option Outcome)}
    (limited : policy.attemptTimeout = some limit)
    (course : Course others (cutAt (Clock.due began.now limit) (exchange request)) w ds e) :
    ∃ value last, e = .done value last ∧
      ComesTo policy request (⟨began, .look⟩ :: ds) (value.getD (overdue limit)) := by
  rw [exchange_eq] at course
  obtain ⟨_, rest, rfl, -, course⟩ := course_act_iff.1 course
  dsimp only at course
  rcases reply : w.network.reply request with _ | ⟨_ | delay, outcome⟩
  · rw [reply] at course
    obtain ⟨_, last, -, -, course⟩ := course_wait_iff.1 course
    obtain ⟨rfl, rfl⟩ := course_done_iff.1 course
    exact ⟨none, last, rfl, .unanswered limited reply⟩
  · rw [reply, awaiting_zero] at course
    obtain ⟨rfl, rfl⟩ := course_done_iff.1 course
    exact ⟨some outcome, _, rfl, .atOnce limited reply⟩
  · rw [reply, awaiting_succ] at course
    obtain ⟨_, rest, rfl, -, course⟩ := course_act_iff.1 course
    rw [cutAt] at course
    split at course
    case isTrue due =>
      obtain ⟨_, last, -, -, course⟩ := course_wait_iff.1 course
      obtain ⟨rfl, rfl⟩ := course_done_iff.1 course
      exact ⟨some outcome, last, rfl, .inTime limited reply due⟩
    case isFalse due =>
      obtain ⟨_, last, -, -, course⟩ := course_wait_iff.1 course
      obtain ⟨rfl, rfl⟩ := course_done_iff.1 course
      exact ⟨none, last, rfl, .late limited reply (Nat.lt_of_not_le due)⟩

/-- An attempt only looks at the world and sends. -/
theorem only_attempt {p : Effect ν → Prop} (look : p .look) (send : p (.send request)) :
    (attempt policy request : Activity ν Outcome).Only p := by
  have exchanged : (exchange request : Activity ν Outcome).Only p := by
    rw [exchange_eq]
    refine fun w => ⟨send, ?_⟩
    dsimp only
    cases w.network.reply request with
    | never => trivial
    | after delay outcome => exact only_bind (only_sleep look _) fun _ => trivial
  unfold attempt
  split
  · exact exchanged
  · exact only_bind (only_within exchanged look _) fun _ => trivial

/-- Every attempt sends its request once and ends with what that comes to, or else it waits for
ever. -/
theorem course_attempt {e : Ending ν Outcome}
    (course : Course others (attempt policy request) w ds e) :
    (∃ outcome last, e = .done outcome last ∧ ComesTo policy request ds outcome) ∨
      ∃ last, e = .never last ∧ HangsAfter policy request ds := by
  unfold attempt at course
  cases limited : policy.attemptTimeout with
  | none =>
    rw [limited] at course
    dsimp only at course
    rw [exchange_eq] at course
    obtain ⟨_, rest, rfl, -, course⟩ := course_act_iff.1 course
    obtain ⟨quiet, ⟨reply, rfl, last, rfl⟩ | ⟨delay, outcome, last, reply, rfl⟩⟩ :=
      course_awaiting course
    · exact .inr ⟨last, rfl, limited, w, rfl, reply⟩
    · exact .inl ⟨outcome, last, rfl, .unlimited limited reply quiet⟩
  | some limit =>
    rw [limited] at course
    obtain ⟨middle, rest, rfl, -, course⟩ := course_act_iff.1 course
    dsimp only [Activity.bind] at course
    rcases course_bind course with ⟨value, last, ds₁, ds₂, rfl, first, second⟩ |
      ⟨cause, last, first, rfl⟩ | ⟨last, first, rfl⟩
    · obtain ⟨_, _, ⟨⟩, comes⟩ := course_cutAt_exchange w limited first
      obtain ⟨rfl, rfl⟩ := course_done_iff.1 second
      refine .inl ⟨_, last, rfl, ?_⟩
      rwa [List.append_nil]
    · obtain ⟨_, _, ⟨⟩, -⟩ := course_cutAt_exchange w limited first
    · obtain ⟨_, _, ⟨⟩, -⟩ := course_cutAt_exchange w limited first

end Call

end Ingress.Downstream
