import Ingress.Metrics.Recorder
import Ingress.Proofs.Activity.Assurance
import Ingress.Proofs.Activity.Timing
import Ingress.Proofs.Activity.Turns
import Ingress.Proofs.Pipeline.Phases

/-!
# Counting requests

Every request that is handled is counted once, whatever its handler does, however it ends and
whoever shares the world with it: under its own method, the template of its route, and the status of
its response, or the status of a caller that has gone away.
-/

namespace Ingress

/-- The sample that an effect counts. -/
def Effect.sample? : Effect ν → Option Metrics.Sample
  | record sample => some sample
  | _ => none

/-- The samples that effects count, in order. -/
def Effect.samples (effects : List (Effect ν)) : List Metrics.Sample := effects.filterMap sample?

/-- The effect counts no request. -/
def Effect.CountsNothing (effect : Effect ν) : Prop := effect.sample? = none

namespace Effect

@[simp] theorem samples_nil : samples ([] : List (Effect ν)) = [] := rfl

@[simp] theorem samples_cons (e : Effect ν) (es : List (Effect ν)) :
    samples (e :: es) = e.sample?.toList ++ samples es := by
  unfold samples
  cases found : e.sample? <;> simp [found]

@[simp] theorem samples_append (es fs : List (Effect ν)) :
    samples (es ++ fs) = samples es ++ samples fs := List.filterMap_append

theorem samples_eq_nil {es : List (Effect ν)} (nothing : ∀ e ∈ es, e.CountsNothing) :
    samples es = [] := List.filterMap_eq_nil_iff.2 nothing

/-- An effect adds the sample that it counts to those of the world, and no other one. -/
theorem samples_apply (e : Effect ν) (w : World ν) :
    (e.apply w).samples = e.sample?.toList ++ w.samples := by cases e <;> rfl

end Effect

namespace Activity

theorem samples_course {others : World ν → World ν → Prop} {a : Activity ν α} {w : World ν}
    {ds : List (Deed ν)} {e : Ending ν α} (quiet : a.Only Effect.CountsNothing)
    (course : Course others a w ds e) : Effect.samples (ds.map (·.effect)) = [] := by
  refine Effect.samples_eq_nil fun effect member => ?_
  obtain ⟨d, present, rfl⟩ := List.mem_map.1 member
  exact course.only quiet d present

theorem samples_run (a : Activity ν α) (w : World ν) :
    (a.run w).world.samples =
      (Effect.samples ((a.deeds w).map (·.effect))).reverse ++ w.samples := by
  induction a generalizing w with
  | done _ | panic _ | forever => rfl
  | act effect next ih =>
    refine (ih w _).trans ?_
    rw [Effect.samples_apply]
    cases found : effect.sample? <;> simp [deeds, found]
  | wait instant next ih => exact ih _

theorem Turn.samples {as bs : List (Activity ν α)} {w later : World ν} {effect : Option (Effect ν)}
    (turn : Turn as w effect bs later) :
    later.samples = (Effect.samples effect.toList).reverse ++ w.samples := by
  induction turn with
  | @act effect _ _ w =>
    rw [Effect.samples_apply]
    cases found : effect.sample? <;> simp [found]
  | wait => rfl
  | pass _ ih => exact ih

theorem Turns.samples {as bs : List (Activity ν α)} {w last : World ν} {effects : List (Effect ν)}
    (turns : Turns as w effects bs last) :
    last.samples = (Effect.samples effects).reverse ++ w.samples := by
  induction turns with
  | stop => rfl
  | turn turn _ ih => rw [ih, turn.samples, Effect.samples_append, List.reverse_append,
      List.append_assoc]

end Activity

namespace Pipeline

open Activity Effect

/-- The status that a handled request has. -/
def Handled.status (h : Handled) : Nat := (h.response.map (·.status)).getD closedStatus

/-- All that is done about the trace that a request brings is to report one that does not count. -/
theorem inboundTrace_reports (headers : Headers) :
    (inboundTrace headers : Activity ν (Option String)).Assures fun es _ =>
      ∀ e ∈ es, e = .report .inboundTraceUnreadable := by
  unfold inboundTrace
  split
  · exact List.forall_mem_nil _
  · split
    · exact List.forall_mem_nil _
    · exact fun _ => List.forall_mem_singleton.2 rfl

theorem opening_assures (deadline : Deadline) (names : Names) (route : Route) (request : Inbound) :
    (opening deadline names route request : Activity ν Context).Assures fun es c =>
      samples es = [] ∧ c.method = request.method ∧ c.route = some route := by
  simp only [opening, receive, bind_eq, pure_eq, assures_bind]
  refine (inboundTrace_reports request.headers).mono fun es _ reports => ?_
  have quiet : samples es = [] := samples_eq_nil fun e member => reports e member ▸ rfl
  simp [Context.start, Activity.plant, perform, Assures, assures_bind, Context.withMethod,
    Context.withPath, Context.withRoute, advance, quiet, sample?]

/-- The end of every request counts it, and nothing else. -/
theorem close_assures (c : Context) (status : Nat) (cancelled : Bool) :
    (close c status cancelled : Activity ν Unit).Assures fun es _ =>
      ∃ duration, samples es = [⟨c.method, c.routeLabel, status, duration⟩] := by
  simp [close, assures_bind, sample?]

theorem answer_assures (c : Context) (stamp : String) (result : Result) :
    (answer c stamp result : Activity ν _).Assures fun es _ => samples es = [] := by
  cases result <;> simp [answer, answerFailure, advance, assures_bind, sample?]

/-- A request is answered if its handler has ended, and it is counted in either case, under the
status of its response if it has one. -/
theorem ended_assures (stamp : String) (c : Context) (served : Option Result) :
    (ended stamp c served : Activity ν Handled).Assures fun es h =>
      (h.response = none ↔ served = none) ∧
        ∃ duration, samples es = [⟨c.method, c.routeLabel, h.status, duration⟩] := by
  cases served with
  | some result =>
    simp only [ended, answered, advance, bind_eq, pure_eq, assures_bind, assures_report,
      assures_done]
    refine (answer_assures c stamp result).mono fun es answer quiet _ => ?_
    refine (close_assures c _ false).mono fun es' _ counted => ⟨by simp, ?_⟩
    simpa [quiet, sample?, Handled.status] using counted
  | none =>
    simp only [ended, abandoned, bind_eq, pure_eq, assures_bind, assures_report, assures_done]
    intro _
    refine (close_assures c closedStatus true).mono fun es _ counted => ⟨by simp, ?_⟩
    simpa [sample?, Handled.status] using counted

/-- Under its deadline every handler comes to an end, and apart from the report that the deadline
came first it has no effects of another kind. -/
theorem execute_assures {p : Effect ν → Prop} {handler : Handler ν} {request : Inbound}
    {c : Context} (only : (handler c request).Only p) (look : p .look)
    (report : ∀ limit, p (.report (.deadlineExceeded c.traceId c.routeLabel limit)))
    (deadline : Deadline) (route : Route) :
    (execute deadline route request handler c).Assures fun es _ => ∀ e ∈ es, p e := by
  simp only [execute, Deadline.run, within, bind_eq, pure_eq, assures_bind, assures_world]
  intro w
  refine (assures_cutAt_caught only _).mono fun es value all => ?_
  rcases value with _ | _ | _ | _
  · simp only [assures_bind, assures_report, assures_done]
    intro _
    simpa [or_imp, forall_and, report, look] using all
  · simpa [look] using all
  · simpa [look] using all
  · simpa [look] using all

/-- Without patience an activity goes on to its end. -/
theorem withinOption_assures {p : Effect ν → Prop} {a : Activity ν α}
    (assured : a.Assures fun es _ => ∀ e ∈ es, p e) (look : p .look) (patience : Option Duration) :
    (withinOption patience a).Assures fun es value =>
      (∀ e ∈ es, p e) ∧ (patience = none → value.isSome) := by
  cases patience with
  | none =>
    simp only [withinOption, assures_bind]
    exact assured.mono fun es value all => by simpa using all
  | some limit =>
    simp only [withinOption, within, bind_eq, assures_bind]
    intro w
    refine (assures_cutAt assured.only assured _).mono fun es value all => ?_
    simpa [look] using all

/-- A request on its way, with all that decides what becomes of it. Its handler does not count
requests itself. -/
structure Arrival (ν : Type) where
  names : Names
  stamp : String
  route : Route
  inbound : Inbound
  handler : Handler ν
  /-- How long the caller waits, if not for ever. -/
  patience : Option Duration
  quiet : ∀ c, (handler c inbound).Only CountsNothing

namespace Arrival

/-- Handles the request. -/
def handle (deadline : Deadline) (a : Arrival ν) : Activity ν Handled :=
  Pipeline.handle deadline a.names a.stamp a.route a.inbound a.handler a.patience

/-- What the request is counted under when it was handled. -/
def series (a : Arrival ν) (h : Handled) : Metrics.Series :=
  ⟨a.inbound.method, a.route.template, h.status⟩

/-- The handler under the deadline, as long as the caller waits. -/
def serving (deadline : Deadline) (c : Context) (a : Arrival ν) : Activity ν (Option Result) :=
  withinOption a.patience (execute deadline a.route a.inbound a.handler c)

/-- The caller has gone away before the handler came to an end or to its deadline. -/
def IsDropped (deadline : Deadline) (w : World ν) (a : Arrival ν) : Prop :=
  ∃ patience ∈ a.patience, ∃ c begun,
    (opening deadline a.names a.route a.inbound).run w = .done c begun ∧
      ¬ (execute deadline a.route a.inbound a.handler c).EndsBy (Clock.due w.now patience) begun

theorem serving_assures (deadline : Deadline) (c : Context) (a : Arrival ν) :
    (a.serving deadline c).Assures fun es served =>
      samples es = [] ∧ (a.patience = none → served.isSome) := by
  have served := execute_assures (a.quiet c) rfl (fun _ => rfl) deadline a.route
  refine (withinOption_assures served rfl a.patience).mono fun es value run => ?_
  exact ⟨samples_eq_nil run.1, run.2⟩

/-- Handling a request comes to an end and counts it once. -/
theorem handle_assures (deadline : Deadline) (a : Arrival ν) :
    (a.handle deadline).Assures fun es h =>
      ∃ duration, samples es = [⟨a.inbound.method, a.route.template, h.status, duration⟩] := by
  rw [handle, handle_eq, assures_bind]
  refine (opening_assures deadline a.names a.route a.inbound).mono fun es c opened => ?_
  obtain ⟨quiet, sameMethod, sameRoute⟩ := opened
  have label : c.routeLabel = a.route.template := by simp [Context.routeLabel, sameRoute]
  rw [assures_bind]
  refine (serving_assures deadline c a).mono fun es' served run => ?_
  refine (ended_assures a.stamp c served).mono fun es'' h counted => ?_
  obtain ⟨-, duration, counted⟩ := counted
  exact ⟨duration, by simp [quiet, run.1, counted, sameMethod, label]⟩

/-- A request has no response just when its handler had not ended when the caller went away. -/
theorem course_handle {others : World ν → World ν → Prop} {deadline : Deadline} {a : Arrival ν}
    {w last : World ν} {ds : List (Deed ν)} {h : Handled}
    (course : Course others (a.handle deadline) w ds (.done h last)) :
    ∃ c begun served middle ds₁ ds₂ ds₃, ds = ds₁ ++ (ds₂ ++ ds₃) ∧
      Course others (opening deadline a.names a.route a.inbound) w ds₁ (.done c begun) ∧
      Course others (a.serving deadline c) begun ds₂ (.done served middle) ∧
      (a.patience = none → served.isSome) ∧ (h.response = none ↔ served = none) := by
  rw [handle, handle_eq] at course
  obtain ⟨c, begun, ds₁, rest, rfl, first, -, second⟩ :=
    course.split (opening_assures deadline a.names a.route a.inbound)
  obtain ⟨served, middle, ds₂, ds₃, rfl, second, assured, third⟩ :=
    second.split (serving_assures deadline c a)
  obtain ⟨_, _, ⟨⟩, answered, -⟩ := third.assured (ended_assures a.stamp c served)
  exact ⟨c, begun, served, middle, ds₁, ds₂, ds₃, rfl, first, second, assured.2, answered⟩

/-- Alone in its world the handler has not ended when the caller goes away just when it does not end
by then. -/
theorem run_serving {deadline : Deadline} {a : Arrival ν} {c : Context} {w begun middle : World ν}
    {served : Option Result} (timely : w.now ≤ Clock.latest)
    (opened : (opening deadline a.names a.route a.inbound).run w = .done c begun)
    (run : (a.serving deadline c).run begun = .done served middle)
    (patient : a.patience = none → served.isSome) : served = none ↔ a.IsDropped deadline w := by
  obtain ⟨_, _, opened', same⟩ :=
    run_of_prompt (prompt_opening deadline a.names a.route a.inbound) w
  obtain ⟨rfl, rfl⟩ : c = _ ∧ begun = _ := by simpa [opened] using opened'
  have dropped : a.IsDropped deadline w ↔ ∃ patience ∈ a.patience,
      ¬ (execute deadline a.route a.inbound a.handler c).EndsBy (Clock.due begun.now patience)
        begun := by
    simp [IsDropped, opened, same]
  rw [dropped]
  cases waits : a.patience with
  | none => simp [Option.ne_none_iff_isSome.2 (patient waits)]
  | some patience =>
    have cut : (cutAt (Clock.due begun.now patience)
        (execute deadline a.route a.inbound a.handler c)).run begun = .done served middle := by
      rw [serving, waits] at run
      exact run
    have starts : begun.now ≤ Clock.due begun.now patience := Clock.le_due (same ▸ timely) patience
    by_cases ends : (execute deadline a.route a.inbound a.handler c).EndsBy
        (Clock.due begun.now patience) begun
    · rw [(run_cutAt_of_endsBy ends).1] at cut
      have given : served ≠ none := by
        rintro rfl
        cases ended : (execute deadline a.route a.inbound a.handler c).run begun <;>
          simp [ended, Ending.map] at cut
      simp [given, ends]
    · obtain ⟨last, ran, -⟩ := run_cutAt_of_not_endsBy starts ends
      obtain ⟨rfl, -⟩ : none = served ∧ last = middle := by simpa [ran] using cut
      simp [ends]

/-- Of requests that were handled beside each other, each is counted once. -/
theorem series_mayDo {deadline : Deadline} {arrivals : List (Arrival ν)}
    {courses : List (List (Deed ν) × Handled)}
    (did : List.Forall₂ MayDo (arrivals.map (·.handle deadline)) courses) :
    (samples (effectsOf courses)).map (·.series) =
      List.zipWith series arrivals (courses.map (·.2)) := by
  induction arrivals generalizing courses with
  | nil =>
    cases did
    rfl
  | cons a rest ih =>
    rcases did with _ | ⟨⟨w, last, course⟩, others⟩
    obtain ⟨_, _, ⟨⟩, duration, counted⟩ := course.assured (handle_assures deadline a)
    have recorded := ih others
    simp only [effectsOf, List.flatMap_cons, samples_append, counted, List.map_append] at recorded ⊢
    rw [recorded]
    rfl

end Arrival

end Pipeline

/-- How often a series has been counted. -/
def World.counted (series : Metrics.Series) (w : World ν) : Nat :=
  (w.samples.map (·.series)).count series

namespace Pipeline

open Activity Effect

/-- Handling a request counts it exactly once, under its method, the template of its route and the
status of its response, or under the status for callers that have gone away when the handler was
given up. So it is whatever others do meanwhile; alone in its world a request is given up just when
its caller goes away before the handler ends. Of requests that take turns in any order, which can
always go on until all are handled, as many are counted in each series as have ended in it. -/
theorem counted_once (deadline : Deadline) :
    (∀ (a : Arrival ν) (others : World ν → World ν → Prop) (w : World ν) (ds : List (Deed ν))
        (e : Ending ν Handled), Course others (a.handle deadline) w ds e →
      ∃ h last duration, e = .done h last ∧
        samples (ds.map (·.effect)) =
          [⟨a.inbound.method, a.route.template, h.status, duration⟩] ∧
        ∃ c begun served middle ds₁ ds₂ ds₃, ds = ds₁ ++ (ds₂ ++ ds₃) ∧
          Course others (opening deadline a.names a.route a.inbound) w ds₁ (.done c begun) ∧
          Course others (a.serving deadline c) begun ds₂ (.done served middle) ∧
          (a.patience = none → served.isSome) ∧ (h.response = none ↔ served = none)) ∧
    (∀ (a : Arrival ν) (w : World ν), w.now ≤ Clock.latest →
      ∃ h last duration, (a.handle deadline).run w = .done h last ∧
        last.samples = ⟨a.inbound.method, a.route.template, h.status, duration⟩ :: w.samples ∧
        (h.response = none ↔ a.IsDropped deadline w)) ∧
    ∀ (arrivals : List (Arrival ν)) (w later : World ν) (effects : List (Effect ν))
        (as : List (Activity ν Handled)),
      Turns (arrivals.map (·.handle deadline)) w effects as later →
      (∃ effects' last, ∃ hs : List Handled, Turns as later effects' (hs.map .done) last) ∧
      ∀ hs : List Handled, as = hs.map .done → hs.length = arrivals.length ∧
        ∀ series, later.counted series =
          w.counted series + (List.zipWith Arrival.series arrivals hs).count series := by
  refine ⟨fun a others w ds e course => ?_, fun a w timely => ?_,
    fun arrivals w later effects as turns => ⟨?_, ?_⟩⟩
  · obtain ⟨h, last, rfl, duration, counted⟩ := course.assured (a.handle_assures deadline)
    exact ⟨h, last, duration, rfl, counted, Arrival.course_handle course⟩
  · have alone : Course Eq (a.handle deadline) w _ _ := course_run (fun _ => rfl) _ w
    obtain ⟨h, last, ran, duration, counted⟩ := alone.assured (a.handle_assures deadline)
    rw [ran] at alone
    obtain ⟨c, begun, served, middle, ds₁, ds₂, ds₃, -, first, second, patient, answered⟩ :=
      Arrival.course_handle alone
    have recorded := samples_run (a.handle deadline) w
    rw [ran, counted] at recorded
    refine ⟨h, last, duration, ran, recorded, answered.trans ?_⟩
    exact Arrival.run_serving timely (course_eq_iff.1 first).2.symm (course_eq_iff.1 second).2.symm
      patient
  · refine Turns.complete (turns.sure fun activity member => ?_) later
    obtain ⟨a, -, rfl⟩ := List.mem_map.1 member
    exact (a.handle_assures deadline).mono fun _ _ _ => trivial
  · intro hs ended
    obtain ⟨courses, did, rfl, same⟩ := turns.mayDo ended
    refine ⟨?_, fun series => ?_⟩
    · simpa using did.length_eq.symm
    · have ordered : ((samples (effectsOf courses)).map (·.series)).Perm
          ((samples effects).map (·.series)) := (same.filterMap sample?).map _
      rw [World.counted, turns.samples, List.map_append, List.count_append, List.map_reverse,
        List.count_reverse, ← ordered.count_eq, Nat.add_comm]
      exact congrArg (w.counted series + ·.count series) (Arrival.series_mayDo did)

/-- A request whose handler never answers is dropped by a caller that waits for five milliseconds;
beside one that is answered at once it is counted under a status of its own. -/
theorem counted_once_dropped :
    let route : Route := ⟨"GET", "/cats/:id", "cats", "find_one", none⟩
    let inbound : Inbound := ⟨"GET", "/cats/1", [], .empty⟩
    let answering : Arrival Unit := ⟨⟨"a", "t"⟩, "", route, inbound,
      fun _ _ => done (.ok (.ofJson 200 "")), none, fun _ => trivial⟩
    let hanging : Arrival Unit := ⟨⟨"b", "u"⟩, "", route, inbound, fun _ _ => forever,
      some (.ofMillis 5), fun _ => trivial⟩
    let w : World Unit := .start .alone [] ()
    (∃ h last duration, (hanging.handle (.new none)).run w = .done h last ∧
      last.samples = [⟨"GET", "/cats/:id", h.status, duration⟩] ∧ h.response = none) ∧
    ∃ effects last h h',
      Turns ([hanging, answering].map (·.handle (.new none))) w effects [.done h, .done h'] last ∧
      last.counted ⟨"GET", "/cats/:id", h.status⟩ =
        [hanging.series h, answering.series h'].count ⟨"GET", "/cats/:id", h.status⟩ := by
  intro route inbound answering hanging w
  constructor
  · obtain ⟨h, last, duration, ran, counted, dropped⟩ :=
      (counted_once (.new none)).2.1 hanging w (by decide)
    obtain ⟨c, begun, opened, same⟩ :=
      run_of_prompt (prompt_opening (.new none) hanging.names route inbound) w
    refine ⟨h, last, duration, ran, counted, dropped.2 ⟨.ofMillis 5, rfl, c, begun, opened, ?_⟩⟩
    rintro ⟨t, ended, late⟩
    have reached : max begun.now (Clock.due begun.now fallbackLimit) = t := Option.some.inj ended
    rw [← reached, same] at late
    exact absurd late (by decide)
  · obtain ⟨⟨effects, last, hs, turns⟩, -⟩ :=
      (counted_once (.new none)).2.2 [hanging, answering] w w [] _ .stop
    obtain ⟨length, counted⟩ := ((counted_once (.new none)).2.2 _ _ _ _ _ turns).2 hs rfl
    obtain ⟨h, h', rfl⟩ := List.length_eq_two.1 length
    refine ⟨effects, last, h, h', turns, (counted _).trans ?_⟩
    simp [World.counted, w, World.start]

end Pipeline

end Ingress
