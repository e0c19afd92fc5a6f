import Ingress.Proofs.Activity.Timing
import Ingress.Proofs.Downstream.Retrying
import Ingress.Proofs.Retry.Backoff
import Mathlib.Data.ENat.Lattice

/-!
# How long attempts take

An attempt takes until its reply comes or its limit runs out, whichever is first, and sends its
request at its beginning. The wait after it takes what the policy says. Instants are those of the
clock, in whole milliseconds.
-/

namespace Ingress

theorem Clock.due_eq {now : Nat} {length : Duration} (fits : now + length.millisUp ≤ latest) :
    due now length = now + length.millisUp := by
  have told : reaches now length := by
    have bound : now + length.millisUp ≤ 2 ^ 64 - 3 := fits
    have within : now / 1000 + length.nanos / 1_000_000_000 < 2 ^ 63 - 1 := by
      unfold Duration.millisUp at bound
      omega
    exact decide_eq_true within
  rw [due, if_pos told, Nat.min_eq_left fits]

theorem Duration.millisUp_ofMillis {n : Nat} (fits : n < UInt64.size) :
    (ofMillis n).millisUp = n := by
  rw [millisUp, nanos_ofMillis fits]
  omega

theorem Clock.due_ofMillis {now delay : Nat} (fits : now + delay ≤ latest) :
    due now (.ofMillis delay) = now + delay := by
  have small : delay < UInt64.size :=
    Nat.lt_of_le_of_lt (Nat.le_trans (Nat.le_add_left delay now) fits) (by decide)
  have length := Duration.millisUp_ofMillis small
  rw [due_eq (length.symm ▸ fits), length]

/-- A pause whose end the clock can tell is over when its length has passed. -/
theorem Clock.afterPause_eq {now : Nat} {length : Duration}
    (fits : now + length.millisUp ≤ latest) : afterPause now length = now + length.millisUp := by
  unfold afterPause
  split
  · next nothing =>
    have none : length.millisUp = 0 := by rw [Duration.millisUp, nothing]
    rw [none, Nat.add_zero]
  · rw [due_eq fits, Nat.max_eq_right (Nat.le_add_right _ _)]

theorem World.network_slept (length : Duration) (w : World ν) :
    (w.slept length).network = w.network := by
  unfold slept
  split <;> rfl

theorem World.advance_of_le {w : World ν} {instant : Nat} (past : instant ≤ w.now) :
    w.advance instant = w := by
  rw [advance, Nat.max_eq_left past]

namespace Downstream

open Activity

/-- The milliseconds after which a reply comes. -/
def Reply.delay : Reply → ℕ∞
  | .never => ⊤
  | .after millis _ => millis

/-- The reply to a request that was sent so often before. -/
def Network.replyAfter (n : Network) (request : Request) (times : Nat) : Reply :=
  ((·.send request)^[times] n).reply request

/-- The instants at which requests were sent. -/
def sentAt (ds : List (Deed ν)) : List ℕ∞ :=
  ds.filterMap fun d => (sent? d.effect).map fun _ => (d.met.now : ℕ∞)

/-- What a span was told of an attempt, and when, if that is what an effect does. -/
def told? (d : Deed ν) : Option (ℕ∞ × List (String × Span.Attribute)) :=
  match d.effect with
  | .touch _ (.event name attributes) =>
    if name = "http.attempt" then some (d.met.now, attributes) else none
  | _ => none

/-- What spans were told of attempts, and when. -/
def toldAt (ds : List (Deed ν)) : List (ℕ∞ × List (String × Span.Attribute)) := ds.filterMap told?

@[simp] theorem sentAt_append (ds ds' : List (Deed ν)) :
    sentAt (ds ++ ds') = sentAt ds ++ sentAt ds' := List.filterMap_append

@[simp] theorem toldAt_append (ds ds' : List (Deed ν)) :
    toldAt (ds ++ ds') = toldAt ds ++ toldAt ds' := List.filterMap_append

theorem deeds_of_only {p : Effect ν → Prop} {a : Activity ν α} (only : a.Only p) (w : World ν) :
    ∀ d ∈ a.deeds w, p d.effect := (course_run (fun w : World ν => Eq.refl w) a w).only only

/-- What neither sends nor changes spans. -/
def IsAside : Effect ν → Prop
  | .send _ | .touch _ _ => False
  | _ => True

theorem sentAt_of_aside {a : Activity ν α} (only : a.Only IsAside) (w : World ν) :
    sentAt (a.deeds w) = [] := by
  refine List.filterMap_eq_nil_iff.2 fun d member => ?_
  have aside := deeds_of_only only w d member
  cases effect : d.effect <;> simp_all [IsAside, sent?]

theorem toldAt_of_aside {a : Activity ν α} (only : a.Only IsAside) (w : World ν) :
    toldAt (a.deeds w) = [] := by
  refine List.filterMap_eq_nil_iff.2 fun d member => ?_
  have aside := deeds_of_only only w d member
  cases effect : d.effect <;> simp_all [IsAside, told?]

namespace Call

/-- The milliseconds that an attempt may take. -/
def cutoff (policy : Retry.Policy) : ℕ∞ :=
  policy.attemptTimeout.elim ⊤ fun limit => limit.millisUp

/-- The milliseconds of the wait after the attempt of a given number. -/
def waitAfter (policy : Retry.Policy) (number : Nat) : ℕ∞ := (policy.backoff number 0).millisUp

/-- An attempt that begins at an instant comes to an end, and the clock can tell when its reply
comes and when its limit runs out. -/
structure Fits (policy : Retry.Policy) (reply : Reply) (began : ℕ∞) : Prop where
  ends : min reply.delay (cutoff policy) ≠ ⊤
  reply : reply.delay ≠ ⊤ → began + reply.delay ≤ Clock.latest
  limit : cutoff policy ≠ ⊤ → began + cutoff policy ≤ Clock.latest

/-- What an attempt reports: what the reply says if it comes in time, and else that it did not. -/
structure Reports (policy : Retry.Policy) (reply : Reply) (o : Outcome) : Prop where
  own : reply.delay ≤ cutoff policy → ∃ millis, reply = .after millis o
  late : cutoff policy < reply.delay →
    ∃ limit, policy.attemptTimeout = some limit ∧ o = overdue limit

variable {policy : Retry.Policy} {request : Request} {span : SpanRef} {number : Nat}
  {w : World ν}

theorem run_awaiting {delay : Nat} (outcome : Outcome) (fits : w.now + delay ≤ Clock.latest) :
    (awaiting (.after delay outcome)).run w = .done outcome (w.advance (w.now + delay)) := by
  cases delay with
  | zero =>
    have still : w.advance (w.now + 0) = w := World.advance_of_le (Nat.le_refl _)
    rw [awaiting_zero, still]
    rfl
  | succ delay =>
    have due := Clock.due_ofMillis fits
    rw [awaiting_succ]
    simp only [Activity.run, Effect.apply, due]

/-- Cut off at an instant, a reply is awaited until then. -/
theorem run_cutAt_awaiting {delay instant : Nat} (outcome : Outcome) (begun : w.now ≤ instant)
    (fits : w.now + delay ≤ Clock.latest) :
    (cutAt instant (awaiting (.after delay outcome))).run w =
      if w.now + delay ≤ instant then .done (some outcome) (w.advance (w.now + delay))
      else .done none (w.advance instant) := by
  cases delay with
  | zero =>
    have still : w.advance (w.now + 0) = w := World.advance_of_le (Nat.le_refl _)
    rw [awaiting_zero, if_pos (show w.now + 0 ≤ instant from begun), still]
    rfl
  | succ delay =>
    have due := Clock.due_ofMillis fits
    rw [awaiting_succ]
    simp only [cutAt, Activity.run, Effect.apply, due]
    split <;> simp only [Activity.run]

theorem run_attempt_unlimited {delay : Nat} {outcome : Outcome}
    (unlimited : policy.attemptTimeout = none)
    (reply : w.network.reply request = .after delay outcome)
    (fits : w.now + delay ≤ Clock.latest) :
    (attempt policy request).run w =
      .done outcome (((Effect.send request).apply w).advance (w.now + delay)) := by
  rw [attempt, unlimited, exchange_eq]
  change (awaiting (w.network.reply request)).run ((Effect.send request).apply w) = _
  rw [reply, run_awaiting (w := (Effect.send request).apply w) outcome fits]
  rfl

theorem run_attempt_limited {limit : Duration} {value : Option Outcome} {last : World ν}
    (limited : policy.attemptTimeout = some limit) (fits : w.now + limit.millisUp ≤ Clock.latest)
    (awaited : (cutAt (w.now + limit.millisUp) (awaiting (w.network.reply request))).run
      ((Effect.send request).apply w) = .done value last) :
    (attempt policy request).run w = .done (value.getD (overdue limit)) last := by
  have exchanged : (cutAt (Clock.due w.now limit) (exchange request)).run w = .done value last := by
    rw [Clock.due_eq fits, exchange_eq]
    exact awaited
  rw [attempt, limited]
  change ((cutAt (Clock.due w.now limit) (exchange request)).bind fun value =>
    done (value.getD (overdue limit))).run w = _
  rw [run_bind, exchanged]
  rfl

/-- An attempt that fits the clock takes as long as its reply or its limit, whichever is first. -/
theorem run_attempt (fits : Fits policy (w.network.reply request) w.now) :
    ∃ o last, (attempt policy request).run w = .done o last ∧
      (last.now : ℕ∞) = w.now + min (w.network.reply request).delay (cutoff policy) ∧
      last.network = w.network.send request ∧ Reports policy (w.network.reply request) o := by
  have replied (delay : Nat) (outcome : Outcome)
      (reply : w.network.reply request = .after delay outcome) : w.now + delay ≤ Clock.latest := by
    have known := fits.reply
    rw [reply] at known
    exact Nat.cast_le.1 ((Nat.cast_add _ _).trans_le (known (ENat.natCast_ne_top delay)))
  have reached (length : Nat) :
      ((((Effect.send request).apply w).advance (w.now + length)).now : ℕ∞) = w.now + length :=
    (congrArg _ (Nat.max_eq_right (Nat.le_add_right _ _))).trans (Nat.cast_add _ _)
  cases limited : policy.attemptTimeout with
  | none =>
    have unlimited : cutoff policy = ⊤ := by rw [cutoff, limited]; rfl
    cases reply : w.network.reply request with
    | never => exact absurd (by rw [unlimited, reply]; rfl) fits.ends
    | after delay outcome =>
      have ran := run_attempt_unlimited limited reply (replied delay outcome reply)
      refine ⟨outcome, _, ran, ?_, rfl, fun _ => ⟨delay, rfl⟩, fun late => ?_⟩
      · rw [reached, unlimited, min_top_right]
        rfl
      · rw [unlimited] at late
        exact absurd late not_top_lt
  | some limit =>
    have cut : cutoff policy = limit.millisUp := by rw [cutoff, limited]; rfl
    have limitFits : w.now + limit.millisUp ≤ Clock.latest := by
      have known := fits.limit
      rw [cut] at known
      exact Nat.cast_le.1 ((Nat.cast_add _ _).trans_le (known (ENat.natCast_ne_top _)))
    have begun : w.now ≤ w.now + limit.millisUp := Nat.le_add_right _ _
    rw [cut]
    cases reply : w.network.reply request with
    | never =>
      have awaited : (cutAt (w.now + limit.millisUp) (awaiting (w.network.reply request))).run
          ((Effect.send request).apply w) =
            .done none (((Effect.send request).apply w).advance (w.now + limit.millisUp)) := by
        rw [reply]
        rfl
      have ran := run_attempt_limited limited limitFits awaited
      refine ⟨overdue limit, _, ran, ?_, rfl, fun early => ?_, fun _ => ⟨limit, limited, rfl⟩⟩
      · exact reached _
      · rw [cut] at early
        exact absurd (top_le_iff.1 early) (ENat.natCast_ne_top _)
    | after delay outcome =>
      have awaited := run_cutAt_awaiting (w := (Effect.send request).apply w) outcome begun
        (replied delay outcome reply)
      rw [← reply] at awaited
      by_cases early : delay ≤ limit.millisUp
      · have inTime := awaited.trans (if_pos (Nat.add_le_add_left early w.now))
        have ran := run_attempt_limited limited limitFits inTime
        refine ⟨outcome, _, ran, ?_, rfl, fun _ => ⟨delay, rfl⟩, fun late => ?_⟩
        · have first : min (delay : ℕ∞) limit.millisUp = delay := min_eq_left (Nat.cast_le.2 early)
          exact (reached delay).trans (congrArg _ first.symm)
        · rw [cut] at late
          exact absurd early (Nat.not_le_of_gt (Nat.cast_lt.1 late))
      · have late : limit.millisUp < delay := Nat.lt_of_not_le early
        have tooLate := awaited.trans (if_neg (Nat.not_le_of_gt (Nat.add_lt_add_left late w.now)))
        have ran := run_attempt_limited limited limitFits tooLate
        refine ⟨overdue limit, _, ran, ?_, rfl, fun early => ?_, fun _ => ⟨limit, limited, rfl⟩⟩
        · have first : min (delay : ℕ∞) limit.millisUp = limit.millisUp :=
            min_eq_right (Nat.cast_le.2 (Nat.le_of_lt late))
          exact (reached _).trans (congrArg _ first.symm)
        · rw [cut] at early
          exact absurd (Nat.cast_le.1 early) (Nat.not_le_of_gt late)

theorem only_awaiting {p : Effect ν → Prop} (look : p .look) (reply : Reply) :
    (awaiting reply : Activity ν Outcome).Only p := by
  cases reply with
  | never => trivial
  | after delay outcome => exact only_bind (only_sleep look _) fun _ => trivial

/-- An attempt sends its request at once. -/
theorem sentAt_attempt (policy : Retry.Policy) (request : Request) (w : World ν) :
    sentAt ((attempt policy request : Activity ν Outcome).deeds w) = [(w.now : ℕ∞)] := by
  have awaited (w : World ν) : (awaiting (w.network.reply request)).Only (IsAside (ν := ν)) :=
    only_awaiting trivial _
  unfold attempt
  cases policy.attemptTimeout with
  | none =>
    dsimp only
    rw [exchange_eq]
    exact congrArg (_ :: ·) (sentAt_of_aside (awaited w) _)
  | some limit =>
    have rest := only_bind (f := fun value => done (value.getD (overdue limit)))
      (only_cutAt (awaited w) (Clock.due w.now limit)) fun _ => trivial
    change sentAt (⟨w, .look⟩ :: ((cutAt (Clock.due w.now limit) (exchange request)).bind
      fun value => done (value.getD (overdue limit))).deeds w) = _
    rw [exchange_eq]
    exact congrArg (_ :: ·) (sentAt_of_aside rest _)

theorem toldAt_attempt (policy : Retry.Policy) (request : Request) (w : World ν) :
    toldAt ((attempt policy request : Activity ν Outcome).deeds w) = [] := by
  refine List.filterMap_eq_nil_iff.2 fun d member => ?_
  have only : (attempt policy request : Activity ν Outcome).Only fun e =>
      e = .look ∨ e = .send request := only_attempt (.inl rfl) (.inr rfl)
  rcases deeds_of_only only w d member with same | same <;> rw [told?, same]

/-- What is told of an attempt. -/
def attemptNote (number : Nat) (o : Outcome) : List (String × Span.Attribute) :=
  [("attempt", .ofNat number), ("outcome", .text o.word)]

/-- What an attempt leaves to be decided. -/
def verdict (o : Outcome) : Except Outcome Response :=
  match o.success? with
  | some response => .ok response
  | none => .error o

theorem run_tryOnce (span : SpanRef) (number : Nat)
    (fits : Fits policy (w.network.reply request) w.now) :
    ∃ o last, (tryOnce policy request span number).run w = .done (verdict o) last ∧
      (last.now : ℕ∞) = w.now + min (w.network.reply request).delay (cutoff policy) ∧
      last.network = w.network.send request ∧ Reports policy (w.network.reply request) o ∧
      sentAt ((tryOnce policy request span number).deeds w) = [(w.now : ℕ∞)] ∧
      toldAt ((tryOnce policy request span number).deeds w) =
        [((last.now : ℕ∞), attemptNote number o)] := by
  obtain ⟨o, middle, ran, now, network, reports⟩ := run_attempt fits
  unfold tryOnce
  rw [bind_eq, run_bind, deeds_bind_of_done ran, ran, sentAt_append, toldAt_append, sentAt_attempt,
    toldAt_attempt]
  refine ⟨o, ?_⟩
  dsimp only
  unfold verdict
  cases o.success? with
  | none => exact ⟨_, rfl, now, network, reports, rfl, rfl⟩
  | some response => exact ⟨_, rfl, now, network, reports, rfl, rfl⟩

theorem run_pause (policy : Retry.Policy) (request : Request) (span : SpanRef) (number : Nat)
    (plain : policy.jitterMicros = 0) (w : World ν) :
    ∃ last, (pause policy request span number).run w = .done () last ∧
      last.network = w.network ∧ sentAt ((pause policy request span number).deeds w) = [] ∧
      toldAt ((pause policy request span number).deeds w) = [] ∧
      (w.now + waitAfter policy number ≤ Clock.latest →
        (last.now : ℕ∞) = w.now + waitAfter policy number) := by
  have delay_eq : policy.backoff number w.drawn = policy.backoff number 0 := by
    simp [Retry.Policy.backoff, plain]
  have aside (delay : Duration) := only_sleep (p := IsAside (ν := ν)) trivial delay
  unfold pause
  dsimp only [bind_eq]
  rw [if_pos plain]
  dsimp only [Activity.bind, world, perform, logEvent, report, cause, Activity.run, deeds]
  rw [delay_eq]
  refine ⟨_, run_sleep _ _, World.network_slept _ _, sentAt_of_aside (aside _) _,
    toldAt_of_aside (aside _) _, fun fits => ?_⟩
  have fits : w.now + (policy.backoff number 0).millisUp ≤ Clock.latest :=
    Nat.cast_le.1 ((Nat.cast_add _ _).trans_le fits)
  rw [now_slept]
  exact (congrArg _ (Clock.afterPause_eq fits)).trans (Nat.cast_add _ _)

theorem run_giveUp (request : Request) (span : SpanRef) (number : Nat) (o : Outcome)
    (w : World ν) :
    ∃ last, (giveUp request span number o).run w =
        .done (.error ⟨request.method, request.url, number, o⟩) last ∧ last.now = w.now ∧
      sentAt ((giveUp request span number o).deeds w) = [] ∧
      toldAt ((giveUp request span number o).deeds w) = [] :=
  ⟨_, rfl, rfl, rfl, rfl⟩

end Call

end Downstream

end Ingress
