import Ingress.Proofs.Downstream.Attempt
import Ingress.Proofs.Span.Elsewhere
import Mathlib.Order.Bounds.Defs

/-!
# Retrying

A call makes as many attempts as it takes to meet an outcome that stops it, or as its policy allows.
It returns the last outcome, and its span tells of all the attempts and of the pauses between them.
-/

namespace Ingress.Downstream.Call

open Activity

/-- The policy has an outcome retried. -/
def Retryable (policy : Retry.Policy) : Outcome → Prop
  | .answered r =>
    r.status ∈ policy.statuses ∨ policy.serverErrors ∧ 500 ≤ r.status ∧ r.status ≤ 599
  | .network code _ => ∃ c ∈ code, c ∈ policy.codes

/-- A request may be sent again: it says so itself, or else its method is one of those that may. -/
def Repeatable (policy : Retry.Policy) (request : Request) : Prop :=
  request.retryAllowed = some true ∨
    request.retryAllowed = none ∧ request.method ∈ policy.methods

/-- No other attempt follows an outcome, however many are allowed. -/
def Stops (policy : Retry.Policy) (request : Request) (o : Outcome) : Prop :=
  (∃ r, o = .answered r ∧ 200 ≤ r.status ∧ r.status < 400) ∨ ¬ Retryable policy o ∨
    ¬ Repeatable policy request

/-- What is logged of an attempt. -/
def attemptEvent (number : Nat) (o : Outcome) : Span.Event :=
  ⟨"http.attempt", .ofPairs [("attempt", .ofNat number), ("outcome", .text o.word)]⟩

/-- What is logged of the pause after an attempt. -/
def retryEvent (number : Nat) (delay : Duration) : Span.Event :=
  ⟨"http.retry", .ofPairs [("attempt", .ofNat number), ("delay_ms", .ofNat (millis delay))]⟩

/-- An attempt that was followed by another one. -/
structure Failed (ν : Type) where
  deeds : List (Deed ν)
  outcome : Outcome
  /-- The random number that was drawn for the pause after it. -/
  draw : Nat

/-- The events of attempts from the one with a given number on: the failed ones, each with the pause
after it, and the last one. -/
def eventsFrom (policy : Retry.Policy) (number : Nat) : List (Failed ν) → Outcome → List Span.Event
  | [], o => [attemptEvent number o]
  | f :: rest, o =>
    attemptEvent number f.outcome :: retryEvent number (policy.backoff number f.draw) ::
      eventsFrom policy (number + 1) rest o

/-- What a call comes to whose last attempt had a given number and outcome. -/
def settle (request : Request) (number : Nat) (o : Outcome) : Except Failure Response :=
  match o.success? with
  | some response => .ok response
  | none => .error ⟨request.method, request.url, number, o⟩

variable {β : Type} {policy : Retry.Policy} {request : Request} {span : SpanRef} {number : Nat}
  {w : World ν} {s : Span} {ds : List (Deed ν)}

theorem isRetryable_iff {o : Outcome} : isRetryable policy o ↔ Retryable policy o := by
  cases o with
  | answered r => simp [isRetryable, Retry.Policy.retriesStatus, Retryable, and_assoc]
  | network code message =>
    simp [isRetryable, Retry.Policy.retriesCode, Retryable, Option.any_eq_true]

theorem mayRepeat_iff : mayRepeat policy request ↔ Repeatable policy request := by
  unfold mayRepeat Repeatable Retry.Policy.retriesMethod
  cases request.retryAllowed <;> simp

theorem success?_eq_none_iff {o : Outcome} :
    o.success? = none ↔ ¬ ∃ r, o = .answered r ∧ 200 ≤ r.status ∧ r.status < 400 := by
  cases o with
  | answered r => simp [Outcome.success?, Response.isSuccess]
  | network code message => simp [Outcome.success?]

theorem eq_answered_of_success? {o : Outcome} {response : Response}
    (success : o.success? = some response) : o = .answered response := by
  cases o with
  | network code message => cases success
  | answered r =>
    simp only [Outcome.success?, Option.ite_none_right_eq_some, Option.some.injEq] at success
    rw [success.2]

theorem settle_eq_ok_iff {o : Outcome} {response : Response} :
    settle request number o = .ok response ↔ o.success? = some response := by
  unfold settle
  cases o.success? <;> simp

/-- Just what does not stop a call is retried. -/
theorem not_stops_iff {o : Outcome} :
    ¬ Stops policy request o ↔
      o.success? = none ∧ (mayRepeat policy request && isRetryable policy o) = true := by
  rw [Stops, not_or, not_or, not_not, not_not, ← success?_eq_none_iff, ← isRetryable_iff,
    ← mayRepeat_iff, Bool.and_eq_true, and_comm (a := isRetryable policy o = true)]

/-- The pause after a failed attempt is logged on the span. -/
theorem course_pause {e : Ending ν Unit}
    (course : Course (Elsewhere span) (pause policy request span number) w ds e)
    (present : w.span? span = some s) (running : s.isFinished = false) :
    ∃ draw last, e = .done () last ∧ sendings ds = [] ∧
      last.span? span =
        some { s with events := s.events ++ [retryEvent number (policy.backoff number draw)] } := by
  have slept {event : Log.Event} {delay : Duration} {w : World ν} {ds : List (Deed ν)}
      {e : Ending ν Unit} (present : w.span? span = some s)
      (course : Course (Elsewhere span) ((logEvent span "http.retry"
        [("attempt", .ofNat number), ("delay_ms", .ofNat (millis delay))]).bind fun _ =>
          (Activity.report event).bind fun _ => sleep delay) w ds e) :
      ∃ last, e = .done () last ∧ sendings ds = [] ∧
        last.span? span = some { s with events := s.events ++ [retryEvent number delay] } := by
    obtain ⟨_, ds, rfl, present, -, course⟩ := course_touch course present running
    obtain ⟨_, ds, rfl, present, course⟩ := course_spare course trivial present
    have assured := sleep_assures (ν := ν) (p := (· = .look)) rfl delay
    obtain ⟨⟨⟩, last, rfl, -⟩ := course.assured assured
    have kept := span?_of_course course (only_sleep (fun _ => trivial) delay) present
    dsimp only [Activity.bind] at course
    have quiet : sendings ds = [] :=
      sendings_eq_nil course (only_sleep (p := fun effect => sent? effect = none) rfl delay)
    exact ⟨last, rfl, quiet, kept⟩
  unfold pause at course
  dsimp only at course
  split at course
  all_goals
    obtain ⟨_, ds, rfl, present, course⟩ := course_spare course trivial present
    obtain ⟨last, rfl, quiet, there⟩ := slept present course
    exact ⟨_, last, rfl, quiet, there⟩

/-- A call that gives up notes the number of its attempts on the span. -/
theorem course_giveUp {o : Outcome} {e : Ending ν (Except Failure Response)}
    (course : Course (Elsewhere span) (giveUp request span number o) w ds e)
    (present : w.span? span = some s) (running : s.isFinished = false) :
    ∃ last, e = .done (.error ⟨request.method, request.url, number, o⟩) last ∧
      sendings ds = [] ∧ last.span? span = some { s with
        attributes := s.attributes.insert "http.attempts" (.ofNat number) } := by
  obtain ⟨_, _, rfl, counted, -, course⟩ := course_touch course present running
  obtain ⟨_, _, rfl, counted, course⟩ := course_spare course trivial counted
  obtain ⟨last, _, rfl, counted, course⟩ := course_spare course trivial counted
  obtain ⟨rfl, rfl⟩ := course_done_iff.1 course
  exact ⟨last, rfl, rfl, counted⟩

/-- What the attempts of a call were, from the one with a given number on and at most so many after
it: the failed ones that were followed by others, and the last one. -/
structure Tried (policy : Retry.Policy) (request : Request) (more : Nat) (ds : List (Deed ν))
    (failed : List (Failed ν)) (deeds : List (Deed ν)) (o : Outcome) : Prop where
  bound : failed.length ≤ more
  retried : ∀ f ∈ failed, ¬ Stops policy request f.outcome
  stopped : Stops policy request o ∨ failed.length = more
  comes : ∀ f ∈ failed, ComesTo policy request f.deeds f.outcome
  comes_last : ComesTo policy request deeds o
  sent : sendings ds = List.replicate (failed.length + 1) request
  inOrder : (failed.flatMap (·.deeds) ++ deeds).Sublist ds

/-- The attempts end, and the span of the call, which was `s` before, tells of them. -/
def Settles (policy : Retry.Policy) (request : Request) (span : SpanRef) (number more : Nat)
    (s : Span) (ds : List (Deed ν)) (e : Ending ν (Except Failure Response)) : Prop :=
  ∃ failed deeds o last, Tried policy request more ds failed deeds o ∧
    e = .done (settle request (number + failed.length) o) last ∧
    last.span? span = some { s with
      events := s.events ++ eventsFrom policy number failed o
      attributes := s.attributes.insert "http.attempts" (.ofNat (number + failed.length)) }

/-- One of the attempts waits for ever. -/
def Hangs (policy : Retry.Policy) (request : Request) (ds : List (Deed ν)) (e : Ending ν α) :
    Prop :=
  ∃ last before hanging, e = .never last ∧ ds = before ++ hanging ∧
    HangsAfter policy request hanging

/-- The last attempt. -/
theorem Tried.last {more : Nat} {deeds rest : List (Deed ν)} {o : Outcome}
    (comes : ComesTo policy request deeds o) (quiet : sendings rest = [])
    (stopped : Stops policy request o ∨ 0 = more) :
    Tried policy request more (deeds ++ rest) [] deeds o where
  bound := Nat.zero_le more
  retried := List.forall_mem_nil _
  stopped := stopped
  comes := List.forall_mem_nil _
  comes_last := comes
  sent := by rw [sendings_append, comes.sendings, quiet]; rfl
  inOrder := List.sublist_append_left deeds rest

/-- A failed attempt before others. -/
theorem Tried.cons {more : Nat} {f : Failed ν} {failed : List (Failed ν)}
    {rest later deeds : List (Deed ν)} {o : Outcome}
    (comes : ComesTo policy request f.deeds f.outcome) (quiet : sendings rest = [])
    (goesOn : ¬ Stops policy request f.outcome)
    (tried : Tried policy request more later failed deeds o) :
    Tried policy request (more + 1) (f.deeds ++ rest ++ later) (f :: failed) deeds o where
  bound := Nat.succ_le_succ tried.bound
  retried := List.forall_mem_cons.2 ⟨goesOn, tried.retried⟩
  stopped := tried.stopped.imp_right (congrArg (· + 1))
  comes := List.forall_mem_cons.2 ⟨comes, tried.comes⟩
  comes_last := tried.comes_last
  sent := by
    rw [sendings_append, sendings_append, comes.sendings, quiet, tried.sent]
    rfl
  inOrder := by
    rw [List.flatMap_cons, List.append_assoc]
    exact (List.sublist_append_left _ rest).append tried.inOrder

/-- After a failed attempt there is either a pause and the rest of the attempts, or no more. -/
theorem attempts_eq (more : Nat) :
    (attempts policy request span number more : Activity ν (Except Failure Response)) =
      (tryOnce policy request span number).bind fun
        | .ok response => done (.ok response)
        | .error o =>
          if 0 < more ∧ (mayRepeat policy request && isRetryable policy o) = true then
            (pause policy request span number).bind fun _ =>
              attempts policy request span (number + 1) (more - 1)
          else giveUp request span number o := by
  cases more with
  | zero =>
    refine congrArg (Activity.bind _) (funext fun tried => ?_)
    cases tried <;> simp
  | succ more =>
    refine congrArg (Activity.bind _) (funext fun tried => ?_)
    cases tried <;> simp

/-- After a failed attempt and a pause the other attempts settle the call. -/
theorem Settles.cons {more : Nat} {f : Failed ν} {rest later : List (Deed ν)}
    {e : Ending ν (Except Failure Response)} (comes : ComesTo policy request f.deeds f.outcome)
    (quiet : sendings rest = []) (goesOn : ¬ Stops policy request f.outcome)
    (settles : Settles policy request span (number + 1) more { s with
      events := s.events ++ [attemptEvent number f.outcome] ++
        [retryEvent number (policy.backoff number f.draw)] } later e) :
    Settles policy request span number (more + 1) s (f.deeds ++ rest ++ later) e := by
  obtain ⟨failed, deeds, o, last, tried, rfl, there⟩ := settles
  have count : number + 1 + failed.length = number + (f :: failed).length := by
    rw [List.length_cons]
    omega
  refine ⟨f :: failed, deeds, o, last, tried.cons comes quiet goesOn, by rw [count], ?_⟩
  rw [there, count, eventsFrom, List.append_assoc, List.append_assoc]
  rfl

/-- The attempts are settled when no other one follows. -/
theorem Settles.last {more : Nat} {o : Outcome} {deeds rest : List (Deed ν)} {last : World ν}
    (comes : ComesTo policy request deeds o) (quiet : sendings rest = [])
    (stopped : Stops policy request o ∨ 0 = more)
    (noted : last.span? span = some { s with
      events := s.events ++ [attemptEvent number o]
      attributes := s.attributes.insert "http.attempts" (.ofNat number) }) :
    Settles policy request span number more s (deeds ++ rest)
      (.done (settle request number o) last) :=
  ⟨[], deeds, o, last, .last comes quiet stopped, rfl, noted⟩

/-- What follows an attempt follows its outcome, unless the attempt waits for ever. The attempt is
logged on the span, with the number of attempts when it is a success. -/
theorem course_tryOnce_bind {f : Except Outcome Response → Activity ν β} {e : Ending ν β}
    (course : Course (Elsewhere span) ((tryOnce policy request span number).bind f) w ds e)
    (present : w.span? span = some s) (running : s.isFinished = false) :
    Hangs policy request ds e ∨
      ∃ o middle deeds rest later, ds = deeds ++ (rest ++ later) ∧
        ComesTo policy request deeds o ∧ sendings rest = [] ∧
        ((o.success? = none ∧ Course (Elsewhere span) (f (.error o)) middle later e ∧
            middle.span? span = some { s with events := s.events ++ [attemptEvent number o] }) ∨
          ∃ response, o.success? = some response ∧
            Course (Elsewhere span) (f (.ok response)) middle later e ∧
            middle.span? span = some { s with
              events := s.events ++ [attemptEvent number o]
              attributes := s.attributes.insert "http.attempts" (.ofNat number) }) := by
  unfold tryOnce at course
  simp only [bind_eq, bind_assoc] at course
  rcases course_bind course with ⟨o, middle, deeds, later, rfl, first, second⟩ |
    ⟨cause, last, first, rfl⟩ | ⟨last, first, rfl⟩
  · obtain ⟨_, _, ⟨⟩, comes⟩ | ⟨_, ⟨⟩, -⟩ := course_attempt first
    have kept := span?_of_course first (only_attempt (fun _ => trivial) fun _ => trivial) present
    obtain ⟨_, rest, rfl, logged, open_, second⟩ := course_touch second kept running
    refine .inr ⟨o, ?_⟩
    dsimp only [Activity.bind] at second
    cases success : o.success? with
    | none =>
      rw [success] at second
      exact ⟨_, deeds, [_], rest, rfl, comes, rfl, .inl ⟨rfl, second, logged⟩⟩
    | some response =>
      rw [success] at second
      obtain ⟨last, rest, rfl, counted, -, second⟩ := course_touch second logged open_
      exact ⟨last, deeds, [_, _], rest, rfl, comes, rfl, .inr ⟨response, rfl, second, counted⟩⟩
  · obtain ⟨_, _, ⟨⟩, -⟩ | ⟨_, ⟨⟩, -⟩ := course_attempt first
  · obtain ⟨_, _, ⟨⟩, -⟩ | ⟨_, ⟨⟩, hangs⟩ := course_attempt first
    exact .inl ⟨last, [], ds, rfl, rfl, hangs⟩

/-- What follows the pause after an attempt follows at once. -/
theorem course_pause_bind {f : Unit → Activity ν β} {e : Ending ν β}
    (course : Course (Elsewhere span) ((pause policy request span number).bind f) w ds e)
    (present : w.span? span = some s) (running : s.isFinished = false) :
    ∃ draw middle rest later, ds = rest ++ later ∧ sendings rest = [] ∧
      Course (Elsewhere span) (f ()) middle later e ∧ middle.span? span =
        some { s with events := s.events ++ [retryEvent number (policy.backoff number draw)] } := by
  obtain ⟨_, middle, rest, later, rfl, first, second⟩ :=
    course_bind_of_ends (fun _ _ first =>
      have ⟨_, last, same, _⟩ := course_pause first present running
      ⟨(), last, same⟩) course
  obtain ⟨draw, _, ⟨⟩, quiet, logged⟩ := course_pause first present running
  exact ⟨draw, middle, rest, later, rfl, quiet, second, logged⟩

/-- The attempts of a call go on as long as no outcome stops them and more are allowed. -/
theorem course_attempts {more : Nat} {e : Ending ν (Except Failure Response)}
    (course : Course (Elsewhere span) (attempts policy request span number more) w ds e)
    (present : w.span? span = some s) (running : s.isFinished = false) :
    Hangs policy request ds e ∨ Settles policy request span number more s ds e := by
  induction more using Nat.strongRecOn generalizing number w s ds with
  | _ more ih =>
    rw [attempts_eq] at course
    obtain hangs | ⟨o, middle, deeds, rest, later, rfl, comes, quiet, ended⟩ :=
      course_tryOnce_bind course present running
    · exact .inl hangs
    rcases ended with ⟨failed, course, logged⟩ | ⟨response, success, course, logged⟩
    · by_cases again : 0 < more ∧ (mayRepeat policy request && isRetryable policy o) = true
      · -- The outcome is retried: a pause, and the other attempts follow.
        dsimp only at course
        rw [if_pos again] at course
        have goesOn : ¬ Stops policy request o := not_stops_iff.2 ⟨failed, again.2⟩
        obtain ⟨more, rfl⟩ := Nat.exists_eq_succ_of_ne_zero (Nat.ne_of_gt again.1)
        obtain ⟨draw, _, rest', later, rfl, quiet', course, paused⟩ :=
          course_pause_bind course logged running
        have silent : sendings (rest ++ rest') = [] := by rw [sendings_append, quiet, quiet']; rfl
        rw [← List.append_assoc rest, ← List.append_assoc deeds]
        rcases ih more (Nat.lt_succ_self more) course paused running with
          ⟨last, before, hanging, rfl, rfl, hangs⟩ | settles
        · exact .inl ⟨last, deeds ++ (rest ++ rest') ++ before, hanging, rfl, by simp, hangs⟩
        · exact .inr (Settles.cons (f := ⟨deeds, o, draw⟩) comes silent goesOn settles)
      · -- No other attempt follows, be it for the outcome or for want of more.
        dsimp only at course
        rw [if_neg again] at course
        obtain ⟨last, rfl, quiet', counted⟩ := course_giveUp course logged running
        have stopped : Stops policy request o ∨ 0 = more := by
          by_contra goesOn
          rw [not_or] at goesOn
          exact again ⟨by omega, (not_stops_iff.1 goesOn.1).2⟩
        have silent : sendings (rest ++ later) = [] := by rw [sendings_append, quiet, quiet']; rfl
        have settled := Settles.last (s := s) comes silent stopped counted
        rw [settle, failed] at settled
        exact .inr settled
    · obtain ⟨rfl, rfl⟩ := course_done_iff.1 course
      have stops : Stops policy request o := by
        by_contra goesOn
        rw [(not_stops_iff.1 goesOn).1] at success
        cases success
      have settled := Settles.last (s := s) comes quiet (.inl stops : _ ∨ 0 = more) logged
      rw [settle, success] at settled
      rw [List.append_nil]
      exact .inr settled

/-- What follows the attempts follows what they have come to, unless one of them waits for ever. -/
theorem course_attempts_bind {more : Nat} {f : Except Failure Response → Activity ν β}
    {e : Ending ν β}
    (course : Course (Elsewhere span) ((attempts policy request span number more).bind f) w ds e)
    (present : w.span? span = some s) (running : s.isFinished = false) :
    Hangs policy request ds e ∨
      ∃ failed deeds o middle ds₁ later, ds = ds₁ ++ later ∧
        Tried policy request more ds₁ failed deeds o ∧
        Course (Elsewhere span) (f (settle request (number + failed.length) o)) middle later e ∧
        middle.span? span = some { s with
          events := s.events ++ eventsFrom policy number failed o
          attributes := s.attributes.insert "http.attempts" (.ofNat (number + failed.length)) } := by
  rcases course_bind course with ⟨result, middle, ds₁, ds₂, rfl, first, second⟩ |
    ⟨cause, last, first, rfl⟩ | ⟨last, first, rfl⟩
  · obtain ⟨_, _, _, ⟨⟩, -⟩ | ⟨failed, deeds, o, _, tried, ⟨⟩, there⟩ :=
      course_attempts first present running
    exact .inr ⟨failed, deeds, o, middle, ds₁, ds₂, rfl, tried, second, there⟩
  · obtain ⟨_, _, _, ⟨⟩, -⟩ | ⟨_, _, _, _, -, ⟨⟩, -⟩ := course_attempts first present running
  · obtain ⟨_, before, hanging, ⟨⟩, rfl, hangs⟩ | ⟨_, _, _, _, -, ⟨⟩, -⟩ :=
      course_attempts first present running
    exact .inl ⟨last, before, hanging, rfl, rfl, hangs⟩

/-- The attributes of a span with the status of an answer, if the outcome is one. -/
def noteStatus (o : Outcome) (attributes : Dictionary Span.Attribute) : Dictionary Span.Attribute :=
  match o with
  | .answered r => attributes.insert "http.status_code" (.ofNat r.status)
  | .network .. => attributes

/-- The status of the span of a call that ended with an outcome. -/
def endStatus (o : Outcome) : Span.Status :=
  match o.success? with
  | some _ => .ok
  | none => .error o.display

theorem conclude_settle (o : Outcome) :
    (conclude span (settle request number o) : Activity ν Unit) = match o with
      | .answered r => (setAttribute span "http.status_code" (.ofNat r.status)).bind fun _ =>
          setStatus span (endStatus o)
      | .network .. => setStatus span (endStatus o) := by
  cases o with
  | network code message => rfl
  | answered r =>
    unfold settle endStatus
    cases success : (Outcome.answered r).success? with
    | none => rfl
    | some response =>
      cases eq_answered_of_success? success
      rfl

/-- How a call ended is noted on its span. -/
theorem course_conclude {o : Outcome} {e : Ending ν Unit}
    (course : Course (Elsewhere span) (conclude span (settle request number o)) w ds e)
    (present : w.span? span = some s) (running : s.isFinished = false) :
    ∃ last, e = .done () last ∧ sendings ds = [] ∧ last.span? span =
      some { s with attributes := noteStatus o s.attributes, status := endStatus o } := by
  rw [conclude_settle] at course
  rcases o with r | ⟨code, message⟩
  · obtain ⟨_, _, rfl, noted, running, course⟩ := course_touch course present running
    obtain ⟨last, _, rfl, noted, -, course⟩ := course_touch course noted running
    obtain ⟨rfl, rfl⟩ := course_done_iff.1 course
    exact ⟨last, rfl, rfl, noted⟩
  · obtain ⟨last, _, rfl, noted, -, course⟩ := course_touch course present running
    obtain ⟨rfl, rfl⟩ := course_done_iff.1 course
    exact ⟨last, rfl, rfl, noted⟩

/-- What follows the notes on how a call ended follows at once. -/
theorem course_conclude_bind {o : Outcome} {f : Unit → Activity ν β} {e : Ending ν β}
    (course : Course (Elsewhere span) ((conclude span (settle request number o)).bind f) w ds e)
    (present : w.span? span = some s) (running : s.isFinished = false) :
    ∃ middle rest later, ds = rest ++ later ∧ sendings rest = [] ∧
      Course (Elsewhere span) (f ()) middle later e ∧ middle.span? span =
        some { s with attributes := noteStatus o s.attributes, status := endStatus o } := by
  obtain ⟨_, middle, rest, later, rfl, first, second⟩ :=
    course_bind_of_ends (fun _ _ first =>
      have ⟨last, same, _⟩ := course_conclude first present running
      ⟨(), last, same⟩) course
  obtain ⟨_, ⟨⟩, quiet, noted⟩ := course_conclude first present running
  exact ⟨middle, rest, later, rfl, quiet, second, noted⟩

/-- The number of attempts is the first one that stops the call or is the last one allowed. -/
theorem Tried.isLeast {failed : List (Failed ν)} {deeds : List (Deed ν)} {o : Outcome}
    (tried : Tried policy request (policy.maxAttempts - 1) ds failed deeds o)
    {outcome : Nat → Outcome}
    (early : ∀ k f, failed[k]? = some f → outcome (k + 1) = f.outcome)
    (final : outcome (failed.length + 1) = o) :
    IsLeast {k | 0 < k ∧ (Stops policy request (outcome k) ∨ k = policy.maxAttempts)}
      (failed.length + 1) := by
  have positive := policy.maxAttempts_pos
  have bound := tried.bound
  constructor
  · refine ⟨Nat.succ_pos _, ?_⟩
    rw [final]
    refine tried.stopped.imp_right fun all => ?_
    omega
  · rintro k ⟨pos, stops⟩
    by_contra before
    obtain ⟨k, rfl⟩ := Nat.exists_eq_succ_of_ne_zero (Nat.ne_of_gt pos)
    have here : k < failed.length := by omega
    have there := List.getElem?_eq_getElem here
    rcases stops with stops | last
    · rw [early k _ there] at stops
      exact tried.retried _ (List.mem_of_getElem? there) stops
    · omega

/-- The span of a call that is over: a finished child of the span that the call was put under. -/
def callSpan (policy : Retry.Policy) (request : Request) (parent : SpanRef) (t : SpanTree)
    (failed : List (Failed ν)) (o : Outcome) (instant : Nat) : Span where
  id := t.id t.spans.length
  parentId := some parent.id
  trace := t.trace
  name := "HTTP " ++ request.method
  parent := some parent.index
  attributes := noteStatus o (((Dictionary.insert "http.method" (.text request.method) []).insert
    "http.url" (.text request.url)).insert "http.attempts" (.ofNat (failed.length + 1)))
  status := endStatus o
  events := eventsFrom policy 1 failed o
  ended := some instant

/-- A call under an open span, while others neither touch its span nor finish it or a span above it,
makes just as many attempts as it takes to stop it or as its policy allows, and sends its request
once for each. It returns the last outcome, and its span, which is new, tells of all attempts. Only
without a limit for attempts it may wait for ever, for a reply that never comes. -/
theorem run_retries (policy : Retry.Policy) (parent : SpanRef) (request : Request) (w : World ν)
    (t : SpanTree) (tree : w.trees[parent.tree]? = some t) (opened : t.isOpen parent.index) :
    let span : SpanRef := ⟨parent.tree, t.spans.length, t.id t.spans.length⟩
    (∃ ds e, Course (Elsewhere span) (run policy parent request) w ds e) ∧
    ∀ ds e, Course (Elsewhere span) (run policy parent request) w ds e →
      Hangs policy request ds e ∨
      ∃ failed deeds o last instant,
        (∀ f ∈ failed, ComesTo policy request f.deeds f.outcome) ∧
        ComesTo policy request deeds o ∧
        (failed.flatMap (·.deeds) ++ deeds).Sublist ds ∧
        sendings ds = List.replicate (failed.length + 1) request ∧
        (∀ outcome : Nat → Outcome, (∀ k f, failed[k]? = some f → outcome (k + 1) = f.outcome) →
          outcome (failed.length + 1) = o →
          IsLeast {k | 0 < k ∧ (Stops policy request (outcome k) ∨ k = policy.maxAttempts)}
            (failed.length + 1)) ∧
        e = .done ((settle request (failed.length + 1) o).mapError .failed) last ∧
        w.span? span = none ∧
        last.span? span = some (callSpan policy request parent t failed o instant) := by
  intro span
  refine ⟨⟨_, _, course_run (fun _ => .refl) _ w⟩, fun ds e course => ?_⟩
  have child : w.child parent = .ok span := World.child_eq_ok.2 ⟨t, tree, opened, rfl⟩
  have fresh : w.span? span = none := by simp [World.span?, World.tree?, span, tree]
  obtain ⟨_, _, rfl, moved, course⟩ := course_act_iff.1 course
  dsimp only [Activity.bind] at course
  rw [child] at course
  have started := World.span?_of_elsewhere moved (World.span?_branch tree opened _)
  obtain ⟨_, _, rfl, noted, running, course⟩ := course_touch course started rfl
  obtain ⟨_, rest, rfl, noted, running, course⟩ := course_touch course noted running
  dsimp only [Activity.bind] at course
  obtain ⟨last, before, hanging, rfl, rfl, hangs⟩ |
      ⟨failed, deeds, o, _, ds₁, _, rfl, tried, course, there⟩ :=
    course_attempts_bind course noted running
  · exact .inl ⟨last, _ :: _ :: _ :: before, hanging, rfl, rfl, hangs⟩
  obtain ⟨after, ds₂, _, rfl, quiet, course, there⟩ := course_conclude_bind course there running
  obtain ⟨last, _, rfl, moved, course⟩ := course_act_iff.1 course
  have ended := World.span?_of_elsewhere moved (World.span?_finish there running)
  obtain ⟨rfl, rfl⟩ := course_done_iff.1 course
  have count : 1 + failed.length = failed.length + 1 := Nat.add_comm _ _
  refine .inr ⟨failed, deeds, o, last, after.now, tried.comes, tried.comes_last, ?_, ?_,
    fun outcome early final => tried.isLeast early final, ?_, fresh, ended.trans ?_⟩
  · refine .cons _ (.cons _ (.cons _ ?_))
    exact tried.inOrder.trans (List.sublist_append_left ds₁ _)
  · change sendings (ds₁ ++ (ds₂ ++ _)) = _
    rw [sendings_append, sendings_append, tried.sent, quiet]
    exact List.append_nil _
  · rw [count]
  · rw [count]
    rfl

/-- Where the first answer is worth a retry and the second is not, the request is sent twice, though
a third attempt is allowed: the call returns the second answer, and its span tells of both and of
the pause between them. -/
theorem run_retries_second :
    let root : SpanRef := ⟨0, 0, ⟨"t", 0⟩⟩
    let network : Network :=
      .ofReplies [.after 5 (.answered (.new 503 .empty)), .after 5 (.answered (.new 200 .empty))]
    let w : World Unit := (Effect.plant "t" "trace" "request").apply (.start network [] ())
    let request : Request := .new "GET" "http://cats/1"
    ∃ (f : Failed Unit) (deeds : List (Deed Unit)) (answer : Response) (last : World Unit)
        (s : Span),
      (run .standard root request).run w = .done (.ok answer) last ∧ answer.status = 200 ∧
      sendings ((run .standard root request).deeds w) = [request, request] ∧
      ComesTo .standard request f.deeds f.outcome ∧ ¬ Stops .standard request f.outcome ∧
      ComesTo .standard request deeds (.answered answer) ∧
      last.span? ⟨0, 1, ⟨"t", 1⟩⟩ = some s ∧ s.status = .ok ∧
      s.events = [attemptEvent 1 f.outcome, retryEvent 1 (Retry.Policy.standard.backoff 1 f.draw),
        attemptEvent 2 (.answered answer)] := by
  intro root network w request
  have twice : (sendings ((run .standard root request).deeds w)).length = 2 := by decide +kernel
  have status : (match (run .standard root request).run w with
      | .done (.ok response) _ => response.status
      | _ => 0) = 200 := by decide +kernel
  obtain ⟨_, _, _, -, -, unlimited, -⟩ |
      ⟨failed, deeds, o, last, instant, comes, comes_last, -, sent, least, ended, -, told⟩ :=
    (run_retries .standard root request w _ rfl rfl).2 _ _ (course_run (fun _ => .refl) _ w)
  · cases unlimited
  rw [sent, List.length_replicate] at twice
  obtain ⟨f, rfl⟩ := List.length_eq_one_iff.1 (Nat.succ.inj twice)
  have goesOn : ¬ Stops .standard request f.outcome := by
    intro stops
    have first := least (fun k => if k = 1 then f.outcome else o)
      (fun k g there => by cases k <;> simp_all) rfl
    exact Nat.not_succ_le_self 1 (first.2 ⟨Nat.one_pos, .inl stops⟩)
  rw [List.length_singleton] at ended
  cases settled : settle request (1 + 1) o with
  | error failure =>
    rw [ended, settled] at status
    cases status
  | ok answer =>
    have success := settle_eq_ok_iff.1 settled
    obtain rfl := eq_answered_of_success? success
    have ended : (run .standard root request).run w = .done (.ok answer) last := by
      rw [ended, settled]
      rfl
    rw [ended] at status
    refine ⟨f, deeds, answer, last, _, ended, status, sent, comes f List.mem_cons_self, goesOn,
      comes_last, told, ?_, rfl⟩
    rw [callSpan, endStatus, success]

end Ingress.Downstream.Call
