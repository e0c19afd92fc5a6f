import Ingress.Proofs.Activity.Assurance
import Ingress.Proofs.Http.Visible
import Ingress.Proofs.Pipeline.Phases
import Ingress.Proofs.Span.Trace

/-!
# The trace of a request

A request keeps the trace id that it brings if that shows, and gets a fresh one otherwise. The tree
that is begun for it is of that trace.
-/

namespace Ingress

open Activity Http

/-- A trace id is the first that the headers bring, as it stands, if that is not empty and shows;
otherwise it is fresh. -/
structure Headers.Identify (headers : Headers) (fresh trace : String) : Prop where
  brought : ∀ value, headers.get? traceId = some value → value.size ≠ 0 → Shows value →
    trace.toUTF8 = value
  fresh : (∀ value, headers.get? traceId = some value → value.size = 0 ∨ ¬ Shows value) →
    trace = fresh

theorem Headers.Identify.shows {headers : Headers} {fresh trace : String}
    (identified : headers.Identify fresh trace) (shown : Shows fresh.toUTF8) :
    Shows trace.toUTF8 := by
  by_cases brings : ∃ value, headers.get? traceId = some value ∧ value.size ≠ 0 ∧ Shows value
  · obtain ⟨value, first, some, shown'⟩ := brings
    rw [identified.brought value first some shown']
    exact shown'
  · have unfit : ∀ value, headers.get? traceId = some value → value.size = 0 ∨ ¬ Shows value := by
      intro value first
      by_contra fit
      exact brings ⟨value, first, not_or.1 fit |>.1, not_not.1 (not_or.1 fit).2⟩
    rw [identified.fresh unfit]
    exact shown

/-- The trace id that headers bring, if it is readable. -/
def Headers.trace? (headers : Headers) : Option String :=
  (headers.get? traceId).bind visibleText?

namespace Context

theorem traceOf_identify (headers : Headers) (fresh : String) :
    headers.Identify fresh (traceOf headers.trace? fresh) := by
  unfold Headers.trace?
  cases first : headers.get? Headers.traceId with
  | none =>
    refine ⟨fun value given => ?_, fun _ => rfl⟩
    rw [first] at given
    cases given
  | some value =>
    rw [Option.bind_some]
    cases read : visibleText? value with
    | none =>
      have hidden := visibleText?_eq_none_iff.1 read
      refine ⟨fun value' given _ shown => ?_, fun _ => rfl⟩
      obtain rfl := Option.some.inj (first.symm.trans given)
      exact absurd shown hidden
    | some trace =>
      obtain ⟨shown, rfl⟩ := visibleText?_eq_some_iff.1 read
      by_cases empty : trace = ""
      · subst empty
        refine ⟨fun value' given some => ?_, fun _ => rfl⟩
        obtain rfl := Option.some.inj (first.symm.trans given)
        exact absurd rfl some
      · have kept : traceOf (some trace) fresh = trace := if_neg empty
        rw [kept]
        refine ⟨fun value' given _ _ => Option.some.inj (first.symm.trans given), fun unfit => ?_⟩
        rcases unfit _ first with none | hidden
        · exact absurd (String.utf8ByteSize_eq_zero_iff.1 none) empty
        · exact absurd shown hidden

end Context

namespace Pipeline

/-- What is set on the context of a request that has begun. -/
def equip (deadline : Deadline) (route : Route) (request : Inbound) (c : Context) :
    Activity ν Context := do
  let limit := deadline.limit route.maxDuration
  let c ← c.withMethod request.method
  let c ← c.withPath (targetPath request.target)
  let c ← c.withRoute route
  let w ← Activity.world
  let c ← if Clock.reaches w.now limit then pure { c with granted := some limit }
    else do
      Activity.report (.deadlineUnset route.template)
      pure c
  pure { c with authorization := request.headers.get? Headers.authorization }

theorem receive_eq (deadline : Deadline) (names : Names) (route : Route) (request : Inbound) :
    (receive deadline names route request : Activity ν Context) =
      (inboundTrace request.headers).bind fun inbound =>
        (Context.start names inbound).bind (equip deadline route request) := rfl

theorem inboundTrace_assures (headers : Headers) :
    (inboundTrace headers : Activity ν (Option String)).Assures fun _ inbound =>
      inbound = headers.trace? := by
  unfold inboundTrace Headers.trace?
  cases headers.get? Headers.traceId with
  | none => rfl
  | some value =>
    dsimp only
    cases read : visibleText? value with
    | none => exact fun _ => read.symm
    | some trace => exact read.symm

/-- What is done for a request before its handler runs, apart from the beginning of its tree: the
world is looked at, events are reported, and the root span is changed. -/
def IsFurnishing (root : SpanRef) : Effect ν → Prop
  | .look | .report _ => True
  | .touch span _ => span = root
  | _ => False

/-- What is set on a context leaves its trace and its root as they are. -/
theorem equip_assures (deadline : Deadline) (route : Route) (request : Inbound) (c : Context) :
    (equip deadline route request c : Activity ν Context).Assures fun es c' =>
      (∀ e ∈ es, IsFurnishing c.root e) ∧ c'.traceId = c.traceId ∧ c'.root = c.root ∧
        c'.method = request.method ∧ c'.route = some route ∧
        c'.path = targetPath request.target ∧
        c'.authorization = request.headers.get? Headers.authorization := by
  simp [equip, assures_bind, Context.withMethod, Context.withPath, Context.withRoute,
    IsFurnishing, or_imp, forall_and]

/-- What is done for a request when its tree has been begun. -/
def furnish (deadline : Deadline) (route : Route) (request : Inbound) (trace : String)
    (root : SpanRef) : Activity ν Context := do
  let w ← Activity.world
  let c ← equip deadline route request ⟨trace, root, none, none, none, "", "", none, w.now⟩
  advance .received .traced
  advance .traced .executing
  pure c

theorem furnish_assures (deadline : Deadline) (route : Route) (request : Inbound) (trace : String)
    (root : SpanRef) :
    (furnish deadline route request trace root : Activity ν Context).Assures fun es c =>
      (∀ e ∈ es, IsFurnishing root e) ∧ c.traceId = trace ∧ c.root = root ∧
        c.method = request.method ∧ c.route = some route ∧
        c.path = targetPath request.target ∧
        c.authorization = request.headers.get? Headers.authorization := by
  simp only [furnish, bind_eq, pure_eq, assures_bind, assures_world]
  intro w
  refine (equip_assures deadline route request _).mono fun es c equipped => ?_
  obtain ⟨furnishing, settled⟩ := equipped
  simp only [advance, assures_report, assures_done]
  intro _ _
  refine ⟨?_, settled⟩
  simpa [IsFurnishing, or_imp, forall_and] using furnishing

theorem opening_eq (deadline : Deadline) (names : Names) (route : Route) (request : Inbound) :
    (opening deadline names route request : Activity ν Context) =
      (inboundTrace request.headers).bind fun inbound =>
        (Activity.plant names.tree (Context.traceOf inbound names.trace) Context.rootName).bind
          (furnish deadline route request (Context.traceOf inbound names.trace)) := by
  unfold opening
  rw [receive_eq]
  simp only [bind_eq, bind_assoc]
  rfl

/-- What is set down of a request when it is received. -/
structure Received (names : Names) (route : Route) (request : Inbound) (c : Context) : Prop where
  identified : request.headers.Identify names.trace c.traceId
  method : c.method = request.method
  route : c.route = some route
  path : c.path = targetPath request.target
  authorization : c.authorization = request.headers.get? Headers.authorization

/-- A request is received in any company: a tree is begun for it, of the trace that it is given, and
its root is the root of the context. -/
theorem course_opening {others : World ν → World ν → Prop} {deadline : Deadline} {names : Names}
    {route : Route} {request : Inbound} {w begun : World ν} {ds : List (Deed ν)} {c : Context}
    (course : Course others (opening deadline names route request) w ds (.done c begun)) :
    Received names route request c ∧
      ∃ inbound planting planted early late, ∃ rest : Activity ν Context,
        Course others (inboundTrace request.headers) w early (.done inbound planting) ∧
        others ((Effect.plant names.tree c.traceId Context.rootName).apply planting) planted ∧
        c.root = ⟨planting.trees.length, 0, ⟨names.tree, 0⟩⟩ ∧
        rest.Only (IsFurnishing c.root) ∧ Course others rest planted late (.done c begun) := by
  rw [opening_eq] at course
  obtain ⟨inbound, planting, early, _, rfl, read, rfl, course⟩ :=
    course.split (inboundTrace_assures request.headers)
  obtain ⟨planted, late, rfl, moved, course⟩ := course_act_iff.1 course
  have identified := Context.traceOf_identify request.headers names.trace
  have furnished := furnish_assures (ν := ν) deadline route request
    (Context.traceOf request.headers.trace? names.trace)
    ⟨planting.trees.length, 0, ⟨names.tree, 0⟩⟩
  obtain ⟨_, _, ⟨⟩, -, trace, root, method, hasRoute, path, authorization⟩ :=
    course.assured furnished
  have only := (furnished.mono fun _ _ all => all.1).only
  rw [← trace] at identified moved
  refine ⟨⟨identified, method, hasRoute, path, authorization⟩, _, planting, planted, early, late,
    _, read, moved, root, ?_, course⟩
  rw [root]
  exact only

/-- What is known of a request whose handler is to run. -/
structure Opened (names : Names) (route : Route) (request : Inbound) (w : World ν) (c : Context)
    (begun : World ν) : Prop where
  identified : request.headers.Identify names.trace c.traceId
  route : c.route = some route
  path : c.path = targetPath request.target
  /-- The tree of the request was not there before. -/
  new : w.trees.length ≤ c.root.tree
  carries : begun.Carries c.root.tree c.traceId

end Pipeline

end Ingress
