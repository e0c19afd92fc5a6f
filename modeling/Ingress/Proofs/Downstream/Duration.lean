import Mathlib.Algebra.BigOperators.Intervals
import Mathlib.Data.ENat.Lattice
import Ingress.Proofs.Downstream.Timekeeping

/-!
# How long calls take

A call whose policy adds no random part to its waits takes as long as its attempts and the waits
between them, and not longer.
-/

namespace Ingress.Downstream.Call

open Activity

variable {policy : Retry.Policy} {request : Request} {span : SpanRef} {number : Nat} {w : World ν}

/-- The instant at which an attempt begins: after those before it and the waits after them. The
first attempt has a given number and begins at a given instant. -/
noncomputable def began (policy : Retry.Policy) (reply : Nat → Reply) (number : Nat) (start : ℕ∞) (k : Nat) :
    ℕ∞ :=
  start +
    ∑ j ∈ Finset.range k, (min (reply j).delay (cutoff policy) + waitAfter policy (number + j))

theorem began_zero (policy : Retry.Policy) (reply : Nat → Reply) (number : Nat) (start : ℕ∞) :
    began policy reply number start 0 = start := by
  rw [began, Finset.sum_range_zero, add_zero]

theorem began_succ (policy : Retry.Policy) (reply : Nat → Reply) (number : Nat) (start : ℕ∞)
    (k : Nat) :
    began policy reply number start (k + 1) =
      began policy (fun j => reply (j + 1)) (number + 1)
        (start + (min (reply 0).delay (cutoff policy) + waitAfter policy number)) k := by
  rw [began, began, Finset.sum_range_succ', add_zero, add_comm (Finset.sum _ _), add_assoc]
  simp only [Nat.add_comm 1, add_assoc]

/-- The attempts of a call begin with a sending. -/
theorem sentAt_attempts (policy : Retry.Policy) (request : Request) (span : SpanRef)
    (number more : Nat) (w : World ν) :
    ∃ rest, sentAt ((attempts policy request span number more).deeds w) = (w.now : ℕ∞) :: rest := by
  rw [attempts_eq, deeds_bind, tryOnce, bind_eq, deeds_bind]
  simp only [sentAt_append, sentAt_attempt]
  exact ⟨_, rfl⟩

/-- What the attempts of a call come to, from the one with a given number on. -/
structure Paced (policy : Retry.Policy) (request : Request) (reply : Nat → Reply)
    (number more : Nat) (start : ℕ∞) (ds : List (Deed ν)) (o : Nat → Outcome) (retried : Nat) :
    Prop where
  sent : sentAt ds = (List.range (retried + 1)).map (began policy reply number start)
  told : toldAt ds = (List.range (retried + 1)).map fun k =>
    (began policy reply number start k + min (reply k).delay (cutoff policy),
      attemptNote (number + k) (o k))
  reports : ∀ k ≤ retried, Reports policy (reply k) (o k)
  goesOn : ∀ k < retried, ¬ Stops policy request (o k)
  bound : retried ≤ more
  stopped : Stops policy request (o retried) ∨ retried = more

theorem Fits.le_latest {reply : Reply} {began : ℕ∞} (fits : Fits policy reply began) :
    began ≤ Clock.latest := by
  by_cases hangs : reply.delay = ⊤
  · have limited : cutoff policy ≠ ⊤ := fun unlimited =>
      fits.ends (by rw [hangs, unlimited, min_self])
    exact le_self_add.trans (fits.limit limited)
  · exact le_self_add.trans (fits.reply hangs)

/-- An attempt after which there is no other one. -/
theorem Paced.last {reply : Nat → Reply} {more : Nat} {start : ℕ∞} {ds : List (Deed ν)}
    {o : Outcome} (sent : sentAt ds = [start])
    (told : toldAt ds = [(start + min (reply 0).delay (cutoff policy), attemptNote number o)])
    (reports : Reports policy (reply 0) o) (stopped : Stops policy request o ∨ 0 = more) :
    Paced policy request reply number more start ds (fun _ => o) 0 where
  sent := by rw [sent, List.range_one, List.map_singleton, began_zero]
  told := by rw [told, List.range_one, List.map_singleton, began_zero, Nat.add_zero]
  reports k le := Nat.le_zero.1 le ▸ reports
  goesOn k lt := absurd lt (Nat.not_lt_zero k)
  bound := Nat.zero_le more
  stopped := stopped

/-- An attempt that is followed by others. -/
theorem Paced.cons {reply : Nat → Reply} {more retried : Nat} {start next : ℕ∞}
    {ds ds' : List (Deed ν)} {o : Outcome} {os : Nat → Outcome} (sent : sentAt ds = [start])
    (told : toldAt ds = [(start + min (reply 0).delay (cutoff policy), attemptNote number o)])
    (reports : Reports policy (reply 0) o) (goesOn : ¬ Stops policy request o)
    (follows : next = start + (min (reply 0).delay (cutoff policy) + waitAfter policy number))
    (paced : Paced policy request (fun k => reply (k + 1)) (number + 1) more next ds' os retried) :
    Paced policy request reply number (more + 1) start (ds ++ ds') (fun k => k.casesOn o os)
      (retried + 1) where
  sent := by
    rw [sentAt_append, sent, paced.sent, List.range_succ_eq_map (n := retried + 1),
      List.map_cons,
      List.map_map, began_zero, follows]
    refine congrArg (start :: ·) (List.map_congr_left fun k _ => ?_)
    exact (began_succ policy reply number start k).symm
  told := by
    rw [toldAt_append, told, paced.told, List.range_succ_eq_map (n := retried + 1),
      List.map_cons,
      List.map_map, began_zero, follows]
    refine congrArg (_ :: ·) (List.map_congr_left fun k _ => ?_)
    rw [Function.comp_apply, began_succ, Nat.add_assoc, Nat.add_comm 1]
  reports
    | 0, _ => reports
    | k + 1, le => paced.reports k (Nat.le_of_succ_le_succ le)
  goesOn
    | 0, _ => goesOn
    | k + 1, lt => paced.goesOn k (Nat.lt_of_succ_lt_succ lt)
  bound := Nat.succ_le_succ paced.bound
  stopped := paced.stopped.imp_right (congrArg Nat.succ)

theorem run_attempts (plain : policy.jitterMicros = 0) (span : SpanRef) (number more : Nat)
    (w : World ν) (reply : Nat → Reply) (replies : ∀ k, reply k = w.network.replyAfter request k)
    (fits : ∀ k < (sentAt ((attempts policy request span number more).deeds w)).length,
      Fits policy (reply k) (began policy reply number w.now k)) :
    ∃ o retried last,
      (attempts policy request span number more).run w =
        .done (settle request (number + retried) (o retried)) last ∧
      (last.now : ℕ∞) = began policy reply number w.now retried +
        min (reply retried).delay (cutoff policy) ∧
      Paced policy request reply number more w.now
        ((attempts policy request span number more).deeds w) o retried := by
  induction more using Nat.strongRecOn generalizing number w reply with
  | _ more ih =>
    have here : w.network.reply request = reply 0 := (replies 0).symm
    have first : Fits policy (w.network.reply request) w.now := by
      obtain ⟨tail, begins⟩ := sentAt_attempts policy request span number more w
      have known := fits 0 (by rw [begins]; exact Nat.succ_pos _)
      rwa [began_zero, ← here] at known
    obtain ⟨o, middle, ran, now, network, reports, sent, told⟩ := run_tryOnce span number first
    rw [here] at now reports
    rw [attempts_eq] at fits ⊢
    rw [deeds_bind_of_done ran] at fits ⊢
    rw [run_bind, ran]
    cases success : o.success? with
    | some response =>
      have decided : verdict o = .ok response := by rw [verdict, success]
      rw [decided] at fits ⊢
      have stops : Stops policy request o := by
        by_contra goesOn
        rw [(not_stops_iff.1 goesOn).1] at success
        cases success
      have settled : settle request number o = .ok response := by rw [settle, success]
      refine ⟨fun _ => o, 0, middle, ?_, ?_, Paced.last ?_ ?_ reports (.inl stops)⟩
      · exact congrArg (Ending.done · middle) settled.symm
      · rw [began_zero, now]
      · rw [sentAt_append, sent]
        rfl
      · rw [toldAt_append, told, now]
        rfl
    | none =>
      have decided : verdict o = .error o := by rw [verdict, success]
      rw [decided] at fits ⊢
      dsimp only at fits ⊢
      by_cases again : 0 < more ∧ (mayRepeat policy request && isRetryable policy o) = true
      · -- The outcome is retried: a pause, and the other attempts follow.
        rw [if_pos again] at fits ⊢
        obtain ⟨more, rfl⟩ : ∃ fewer, more = fewer + 1 := ⟨more - 1, by omega⟩
        rw [Nat.add_sub_cancel] at fits ⊢
        have goesOn : ¬ Stops policy request o := not_stops_iff.2 ⟨success, again.2⟩
        obtain ⟨next, paused, same, quiet, silent, waited⟩ :=
          run_pause policy request span number plain middle
        rw [deeds_bind_of_done paused] at fits ⊢
        rw [run_bind, paused]
        rw [← List.append_assoc] at fits ⊢
        have sent' : sentAt ((tryOnce policy request span number).deeds w ++
            (pause policy request span number).deeds middle) = [(w.now : ℕ∞)] := by
          rw [sentAt_append, sent, quiet]
          rfl
        have told' : toldAt ((tryOnce policy request span number).deeds w ++
            (pause policy request span number).deeds middle) =
              [(w.now + min (reply 0).delay (cutoff policy), attemptNote number o)] := by
          rw [toldAt_append, told, silent, now]
          rfl
        rw [sentAt_append, sent'] at fits
        have follows : (next.now : ℕ∞) =
            w.now + (min (reply 0).delay (cutoff policy) + waitAfter policy number) := by
          obtain ⟨tail, begins⟩ := sentAt_attempts policy request span (number + 1) more next
          have bound := (fits (0 + 1) (by simp [begins])).le_latest
          rw [began_succ, began_zero, ← add_assoc, ← now] at bound
          rw [waited bound, now, add_assoc]
        have replies' (k : Nat) : reply (k + 1) = next.network.replyAfter request k := by
          rw [same, network]
          exact replies (k + 1)
        obtain ⟨os, retried, last, ran', now', paced⟩ :=
          ih more (Nat.lt_succ_self more) (number + 1) next (fun k => reply (k + 1)) replies'
            fun k lt => by
              have known := fits (k + 1) (by simpa using lt)
              rwa [began_succ, ← follows] at known
        refine ⟨fun k => k.casesOn o os, retried + 1, last, ?_, ?_,
          Paced.cons sent' told' reports goesOn follows paced⟩
        · rw [← Nat.add_assoc, Nat.add_right_comm]
          exact ran'
        · rw [now', began_succ, follows]
      · -- No other attempt follows, be it for the outcome or for want of more.
        rw [if_neg again] at fits ⊢
        have stopped : Stops policy request o ∨ 0 = more := by
          by_contra goesOn
          rw [not_or] at goesOn
          exact again ⟨by omega, (not_stops_iff.1 goesOn.1).2⟩
        have settled : settle request number o =
            .error ⟨request.method, request.url, number, o⟩ := by rw [settle, success]
        obtain ⟨last, gaveUp, still, quiet, silent⟩ := run_giveUp request span number o middle
        refine ⟨fun _ => o, 0, last, ?_, ?_, Paced.last ?_ ?_ reports stopped⟩
        · rw [gaveUp]
          exact congrArg (Ending.done · last) settled.symm
        · rw [began_zero, still, now]
        · rw [sentAt_append, sent, quiet]
          rfl
        · rw [toldAt_append, told, silent, now]
          rfl

/-- An attempt that took too long is retried where the request may be repeated and the policy has
such failures retried. -/
theorem stops_overdue_iff (policy : Retry.Policy) (request : Request) (limit : Duration) :
    Stops policy request (overdue limit) ↔
      ¬ (Repeatable policy request ∧ .timedOut ∈ policy.codes) := by
  have retryable : Retryable policy (overdue limit) ↔ .timedOut ∈ policy.codes := by
    simp [Retryable, overdue]
  rw [Stops, retryable]
  constructor
  · rintro (⟨r, answered, -⟩ | unwanted | barred) ⟨repeatable, wanted⟩
    · cases answered
    · exact unwanted wanted
    · exact barred repeatable
  · intro either
    by_cases wanted : .timedOut ∈ policy.codes
    · exact .inr (.inr fun repeatable => either ⟨repeatable, wanted⟩)
    · exact .inr (.inl wanted)

namespace Paced

variable {reply : Nat → Reply} {more retried : Nat} {start : ℕ∞} {ds : List (Deed ν)}
  {o : Nat → Outcome}

/-- The time that the attempts take with the waits between them. -/
theorem time_eq (policy : Retry.Policy) (reply : Nat → Reply) (start : ℕ∞) (retried : Nat) :
    began policy reply 1 start retried + min (reply retried).delay (cutoff policy) =
      start + ∑ k ∈ Finset.range (retried + 1), min (reply k).delay (cutoff policy) +
        ∑ k ∈ Finset.range retried, waitAfter policy (k + 1) := by
  rw [began, Finset.sum_add_distrib, Finset.sum_range_succ]
  simp only [Nat.add_comm 1]
  ac_rfl

theorem late_iff (paced : Paced policy request reply number more start ds o retried) {k : Nat}
    (le : k ≤ retried) (late : cutoff policy < (reply k).delay) :
    k < retried ↔ Repeatable policy request ∧ .timedOut ∈ policy.codes ∧ k < more := by
  obtain ⟨limit, -, same⟩ := (paced.reports k le).late late
  have stops := stops_overdue_iff policy request limit
  rw [← same] at stops
  constructor
  · intro lt
    obtain ⟨repeatable, wanted⟩ := not_not.1 (mt stops.2 (paced.goesOn k lt))
    exact ⟨repeatable, wanted, Nat.lt_of_lt_of_le lt paced.bound⟩
  · rintro ⟨repeatable, wanted, fewer⟩
    by_contra last
    obtain rfl : k = retried := Nat.le_antisymm le (Nat.le_of_not_lt last)
    rcases paced.stopped with stopped | all
    · exact stops.1 stopped ⟨repeatable, wanted⟩
    · omega

end Paced

theorem run_conclude (span : SpanRef) (result : Except Failure Response) (w : World ν) :
    ∃ last, (conclude span result).run w = .done () last ∧ last.now = w.now ∧
      sentAt ((conclude span result).deeds w) = [] ∧
      toldAt ((conclude span result).deeds w) = [] := by
  cases result with
  | ok response => exact ⟨_, rfl, rfl, rfl, rfl⟩
  | error failure =>
    dsimp only [conclude]
    cases failure.status? with
    | none => exact ⟨_, rfl, rfl, rfl, rfl⟩
    | some status => exact ⟨_, rfl, rfl, rfl, rfl⟩

/-- The end of a call after its attempts. -/
def conclusion (span : SpanRef) (result : Except Failure Response) :
    Activity ν (Except CallError Response) :=
  (conclude span result).bind fun _ =>
    (Activity.finish span).bind fun _ => done (result.mapError .failed)

theorem run_conclusion (span : SpanRef) (result : Except Failure Response) (w : World ν) :
    ∃ last, (conclusion span result).run w = .done (result.mapError .failed) last ∧
      last.now = w.now ∧ sentAt ((conclusion span result).deeds w) = [] ∧
      toldAt ((conclusion span result).deeds w) = [] := by
  obtain ⟨middle, ran, now, quiet, silent⟩ := run_conclude span result w
  rw [conclusion, run_bind, deeds_bind_of_done ran, ran, sentAt_append, toldAt_append, quiet,
    silent]
  exact ⟨_, rfl, now, rfl, rfl⟩

theorem run_eq (policy : Retry.Policy) (parent : SpanRef) (request : Request) :
    (run policy parent request : Activity ν _) =
      .act (.branch parent ("HTTP " ++ request.method)) fun w =>
        match w.child parent with
        | .error error => .done (.error (.trace error))
        | .ok span =>
          .act (.touch span (.attribute "http.method" (.text request.method))) fun _ =>
            .act (.touch span (.attribute "http.url" (.text request.url))) fun _ =>
              (attempts policy request span 1 (policy.maxAttempts - 1)).bind (conclusion span) := by
  refine congrArg (Activity.act _) (funext fun w => ?_)
  dsimp only [Activity.bind]
  cases w.child parent <;> rfl

/-- At the end of a call nothing more is sent or told of attempts. -/
theorem deeds_bind_conclusion (span : SpanRef) (a : Activity ν (Except Failure Response))
    (w : World ν) :
    ∃ after, (a.bind (conclusion span)).deeds w = a.deeds w ++ after ∧
      sentAt after = [] ∧ toldAt after = [] := by
  rw [deeds_bind]
  cases a.run w with
  | done result middle =>
    obtain ⟨-, -, -, quiet, silent⟩ := run_conclusion span result middle
    exact ⟨_, rfl, quiet, silent⟩
  | panicked cause last => exact ⟨[], rfl, rfl, rfl⟩
  | never last => exact ⟨[], rfl, rfl, rfl⟩

/-- A call that gets its span sends and tells what its attempts do, and no time passes before or
after them. -/
theorem run_of_child (policy : Retry.Policy) (request : Request) {parent : SpanRef}
    (child : w.child parent = .ok span) :
    ∃ first : World ν, first.now = w.now ∧ first.network = w.network ∧
      sentAt ((run policy parent request).deeds w) =
        sentAt ((attempts policy request span 1 (policy.maxAttempts - 1)).deeds first) ∧
      toldAt ((run policy parent request).deeds w) =
        toldAt ((attempts policy request span 1 (policy.maxAttempts - 1)).deeds first) ∧
      ∀ result middle,
        (attempts policy request span 1 (policy.maxAttempts - 1)).run first = .done result middle →
        ∃ last, (run policy parent request).run w = .done (result.mapError .failed) last ∧
          last.now = middle.now := by
  let first := (Effect.touch span (.attribute "http.url" (.text request.url))).apply
    ((Effect.touch span (.attribute "http.method" (.text request.method))).apply
      ((Effect.branch parent ("HTTP " ++ request.method)).apply w))
  obtain ⟨after, rest_eq, quiet, silent⟩ := deeds_bind_conclusion span
    (attempts policy request span 1 (policy.maxAttempts - 1)) first
  have did : ∃ before, (run policy parent request).deeds w = before ++
      ((attempts policy request span 1 (policy.maxAttempts - 1)).deeds first ++ after) ∧
      sentAt before = [] ∧ toldAt before = [] := by
    rw [← rest_eq, run_eq, deeds, child]
    exact ⟨[_, _, _], rfl, rfl, rfl⟩
  obtain ⟨before, did, quiet', silent'⟩ := did
  refine ⟨first, rfl, rfl, ?_, ?_, fun result middle ran => ?_⟩
  · rw [did, sentAt_append, sentAt_append, quiet, quiet', List.append_nil, List.nil_append]
  · rw [did, toldAt_append, toldAt_append, silent, silent', List.append_nil, List.nil_append]
  · obtain ⟨last, ran', now, -, -⟩ := run_conclusion span result middle
    refine ⟨last, ?_, now⟩
    rw [run_eq, Activity.run, child]
    change ((attempts policy request span 1 (policy.maxAttempts - 1)).bind (conclusion span)).run
      first = _
    rw [run_bind, ran]
    exact ran'

/-- Alone in its world, and as long as the clock can tell its instants, a call without random waits
takes the time of its attempts and of the waits between them, with none before the first attempt and
none after the last. An attempt takes as long as its reply or its limit, whichever is first. It
reports the outcome of the reply just when that comes in time, and else that it took too long; this
is retried just when the request may be repeated, the policy has such failures retried and allows
another attempt. -/
theorem run_takes (policy : Retry.Policy) (plain : policy.jitterMicros = 0) (parent : SpanRef)
    (request : Request) (w : World ν)
    (fits : ∀ k < (sentAt ((run policy parent request).deeds w)).length,
      Fits policy (w.network.replyAfter request k)
        (began policy (w.network.replyAfter request) 1 w.now k)) :
    let ds := (run policy parent request).deeds w
    let e := (run policy parent request).run w
    let n := (sentAt ds).length
    let reply := w.network.replyAfter request
    (n = 0 ↔ ∃ error, w.child parent = .error error) ∧
    (e.world.now : ℕ∞) = w.now + ∑ k ∈ Finset.range n, min (reply k).delay (cutoff policy) +
      ∑ k ∈ Finset.range (n - 1), waitAfter policy (k + 1) ∧
    sentAt ds = (List.range n).map (began policy reply 1 w.now) ∧
    ∃ o : Nat → Outcome,
      (toldAt ds = (List.range n).map fun k =>
        (began policy reply 1 w.now k + min (reply k).delay (cutoff policy),
          [("attempt", .ofNat (k + 1)), ("outcome", .text (o k).word)])) ∧
      ∀ k < n, Reports policy (reply k) (o k) ∧
        (cutoff policy < (reply k).delay →
          (k + 1 < n ↔ Repeatable policy request ∧ .timedOut ∈ policy.codes ∧
            k + 1 < policy.maxAttempts)) ∧
        (k + 1 = n → ∃ last, e = .done ((settle request n (o k)).mapError .failed) last) := by
  intro ds e n reply
  cases child : w.child parent with
  | error error =>
    have did : ds = [⟨w, .branch parent ("HTTP " ++ request.method)⟩] := by
      change (run policy parent request).deeds w = _
      rw [run_eq, deeds, child]
      rfl
    have ending : e.world.now = w.now := by
      change ((run policy parent request).run w).world.now = _
      rw [run_eq, Activity.run, child]
      rfl
    have none : n = 0 := by
      change (sentAt ds).length = 0
      rw [did]
      rfl
    rw [none, ending, did]
    refine ⟨by simp, by simp, rfl, fun _ => overdue .zero, rfl, fun k lt => ?_⟩
    exact absurd lt (Nat.not_lt_zero k)
  | ok span =>
    obtain ⟨first, now, network, sent, told, ended⟩ := run_of_child policy request child
    rw [sent, ← now, ← network] at fits
    obtain ⟨o, retried, middle, ran, time, paced⟩ :=
      run_attempts plain span 1 _ first _ (fun _ => rfl) fits
    obtain ⟨last, ran', same⟩ := ended _ _ ran
    rw [now, network] at time paced
    have count : n = retried + 1 := by
      change (sentAt ((run policy parent request).deeds w)).length = _
      rw [sent, paced.sent, List.length_map, List.length_range]
    have ending : e.world.now = middle.now := by
      change ((run policy parent request).run w).world.now = _
      rw [ran']
      exact same
    rw [count, ending, time]
    refine ⟨?_, Paced.time_eq policy reply w.now retried, sent.trans paced.sent, o, ?_,
      fun k lt => ⟨paced.reports k (by omega), fun late => ?_, fun final => ?_⟩⟩
    · simp
    · refine (told.trans paced.told).trans (List.map_congr_left fun k _ => ?_)
      rw [attemptNote, Nat.add_comm 1]
    · rw [Nat.add_lt_add_iff_right, paced.late_iff (by omega) late, Nat.lt_sub_iff_add_lt]
    · obtain rfl : k = retried := Nat.succ.inj final
      exact ⟨last, by rw [Nat.add_comm k]; exact ran'⟩

/-- A first attempt that is never answered takes its limit of 50 milliseconds, the wait after it 10,
and the second attempt the 5 that its answer takes. -/
theorem run_takes_limit :
    let root : SpanRef := ⟨0, 0, ⟨"t", 0⟩⟩
    let network : Network := .ofReplies [.never, .after 5 (.answered (.new 200 .empty))]
    let w : World Unit := (Effect.plant "t" "trace" "request").apply (.start network [] ())
    let policy : Retry.Policy := { Retry.Policy.standard with
      base := .ofMillis 10, jitter := .zero, attemptTimeout := some (.ofMillis 50) }
    ((run policy root (.new "GET" "http://cats/1")).run w).world.now = 65 := by
  intro root network w policy
  have plain : policy.jitterMicros = 0 := Retry.Policy.jitterMicros_of_zero rfl
  have two : (sentAt ((run policy root (.new "GET" "http://cats/1")).deeds w)).length = 2 := by
    decide +kernel
  have limit : cutoff policy = (50 : Nat) := congrArg Nat.cast (by decide)
  have pause : waitAfter policy 1 = (10 : Nat) := congrArg Nat.cast (by decide)
  have late : min ⊤ (cutoff policy) = (50 : Nat) := by rw [min_top_left, limit]
  have second : began policy (w.network.replyAfter (.new "GET" "http://cats/1")) 1 w.now 1 =
      (60 : Nat) := by
    rw [began, Finset.sum_range_one, pause]
    change (0 : Nat) + (min ⊤ (cutoff policy) + _) = _
    rw [late]
    rfl
  have inTime : min ((5 : Nat) : ℕ∞) (cutoff policy) = (5 : Nat) := by rw [limit]; rfl
  have fits : ∀ k < (sentAt ((run policy root (.new "GET" "http://cats/1")).deeds w)).length,
      Fits policy (w.network.replyAfter (.new "GET" "http://cats/1") k)
        (began policy (w.network.replyAfter (.new "GET" "http://cats/1")) 1 w.now k) := by
    rw [two]
    intro k lt
    rcases k with _ | _ | k
    · rw [began_zero]
      refine ⟨?_, fun never => absurd rfl never, fun _ => ?_⟩
      · exact ne_of_eq_of_ne late (ENat.natCast_ne_top _)
      · rw [limit]
        exact Nat.cast_le.2 (by decide : 0 + 50 ≤ Clock.latest)
    · rw [second]
      refine ⟨?_, fun _ => ?_, fun _ => ?_⟩
      · exact ne_of_eq_of_ne inTime (ENat.natCast_ne_top _)
      · exact Nat.cast_le.2 (by decide : 60 + 5 ≤ Clock.latest)
      · rw [limit]
        exact Nat.cast_le.2 (by decide : 60 + 50 ≤ Clock.latest)
    · omega
  obtain ⟨-, time, -⟩ := run_takes policy plain root (.new "GET" "http://cats/1") w fits
  rw [two, Finset.sum_range_succ, Finset.sum_range_one, Finset.sum_range_one, pause] at time
  have parts : (0 : Nat) + (min ⊤ (cutoff policy) + min ((5 : Nat) : ℕ∞) (cutoff policy)) +
      (10 : Nat) = (65 : Nat) := by
    rw [late, inTime]
    rfl
  exact Nat.cast_injective (time.trans parts)

/-- A request that may not be repeated is sent once, though its attempt took too long and the policy
has such failures retried and allows another attempt. -/
theorem run_takes_barred :
    let root : SpanRef := ⟨0, 0, ⟨"t", 0⟩⟩
    let w : World Unit := (Effect.plant "t" "trace" "request").apply
      (.start (.ofReplies [.never, .never, .never]) [] ())
    let policy : Retry.Policy := { Retry.Policy.standard with
      jitter := .zero, attemptTimeout := some (.ofMillis 50) }
    let request : Request := .new "POST" "http://cats"
    cutoff policy < (w.network.replyAfter request 0).delay ∧ .timedOut ∈ policy.codes ∧
      1 < policy.maxAttempts ∧ (sentAt ((run policy root request).deeds w)).length = 1 := by
  refine ⟨ENat.natCast_lt_top _, by decide, by decide, by decide +kernel⟩

end Ingress.Downstream.Call
