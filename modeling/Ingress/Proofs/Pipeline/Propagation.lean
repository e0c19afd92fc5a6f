import Ingress.Proofs.Context.Setting
import Ingress.Proofs.Downstream.LastAttempt
import Ingress.Proofs.Pipeline.Company

/-!
# What a request passes on

Every call that a handler makes through a client of its request carries the trace id of the request
and the credentials of its context, each once and in the place of what was there before. All else is
sent as the handler built it, on every attempt.
-/

namespace Ingress

open Activity Http Downstream

/-- What is sent for a request that was built has this trace id and, if there are, these credentials,
and all else as it was built. -/
structure Downstream.Request.Conveys (built : Request) (trace : ByteArray)
    (credentials : Option ByteArray) (sent : Request) : Prop where
  method : sent.method = built.method
  url : sent.url = built.url
  body : sent.body = built.body
  retryAllowed : sent.retryAllowed = built.retryAllowed
  traceId : sent.headers.getAll Headers.traceId = [trace]
  authorization : sent.headers.getAll Headers.authorization =
    match credentials with
    | some value => [value]
    | none => built.headers.getAll Headers.authorization
  others : sent.headers.filter (fun p => p.1 ≠ Headers.traceId ∧ p.1 ≠ Headers.authorization) =
    built.headers.filter fun p => p.1 ≠ Headers.traceId ∧ p.1 ≠ Headers.authorization

/-- What does not look at a name does not see its values replaced. -/
theorem Headers.filter_insert {name : String} {p : String × ByteArray → Bool}
    (blind : ∀ value, p (name, value) = false) (value : ByteArray) (h : Headers) :
    (h.insert name value).filter p = h.filter p := by
  have others : ∀ q : String × ByteArray, (p q && decide (q.1 ≠ name)) = p q := by
    rintro ⟨other, v⟩
    by_cases same : other = name
    · subst same
      simp [blind]
    · simp [same]
  rw [insert, List.filter_append, List.filter_filter, List.filter_singleton, blind]
  simp only [others]
  simp

namespace Context

/-- Headers with what is passed on. -/
def forward (c : Context) (headers : Headers) : Headers :=
  let traced := headers.insert Headers.traceId c.traceId.toUTF8
  match c.authorization with
  | some value => traced.insert Headers.authorization value
  | none => traced

theorem propagate_eq {c : Context} (shown : Shows c.traceId.toUTF8) (headers : Headers) :
    (c.propagate headers : Activity ν Headers) = done (c.forward headers) := by
  unfold propagate forward
  rw [headerValue?_of_shows shown]
  cases c.authorization <;> rfl

theorem forward_conveys (c : Context) (built : Request) :
    built.Conveys c.traceId.toUTF8 c.authorization
      { built with headers := c.forward built.headers } := by
  have apart : Headers.traceId ≠ Headers.authorization := by decide
  refine ⟨rfl, rfl, rfl, rfl, ?_, ?_, ?_⟩
  · dsimp only [forward]
    cases c.authorization with
    | none => exact Headers.getAll_insert_self _ _ _
    | some value => rw [Headers.getAll_insert_other apart, Headers.getAll_insert_self]
  · dsimp only [forward]
    cases c.authorization with
    | none => exact Headers.getAll_insert_other apart.symm _ _
    | some value => exact Headers.getAll_insert_self _ _ _
  · dsimp only [forward]
    cases c.authorization with
    | none => exact Headers.filter_insert (fun _ => by simp) _ _
    | some value =>
      rw [Headers.filter_insert fun _ => by simp]
      exact Headers.filter_insert (fun _ => by simp) _ _

end Context

namespace Downstream

/-- A client passes on what its context says. -/
theorem Client.send_eq {client : Client} (shown : Shows client.context.traceId.toUTF8)
    (request : Request) :
    (client.send request : Activity ν (Except CallError Response)) =
      Call.run client.policy client.parent
        { request with headers := client.context.forward request.headers } := by
  unfold Client.send
  rw [Context.propagate_eq shown]
  rfl

/-- A call sends one request, as often as it makes attempts, and at least once if it is not
refused. -/
theorem sendings_run {others : World ν → World ν → Prop} {policy : Retry.Policy} {parent : SpanRef}
    {request : Request} {w : World ν} {ds : List (Deed ν)}
    {e : Ending ν (Except CallError Response)}
    (course : Course others (Call.run policy parent request) w ds e) :
    ∃ n, sendings ds = List.replicate n request ∧
      (n = 0 → ∃ error last, e = .done (.error (.trace error)) last) := by
  refine ⟨(sendings ds).length, List.eq_replicate_length.2 fun r member => ?_, fun none => ?_⟩
  · obtain ⟨d, member, sent⟩ := List.mem_filterMap.1 member
    exact (course.only (Call.only_run policy request parent) d member).sent?_eq_some sent
  · rcases Call.course_run_last course with ⟨error, last, rfl, -⟩ | ⟨sent, -⟩
    · exact ⟨error, last, rfl⟩
    · exact absurd (List.eq_nil_of_length_eq_zero none) sent

end Downstream

namespace Pipeline

/-- Every request is answered with its trace id, and passes it on. Its context has the first
credentials that it brings, until the handler sets others. Whatever a client of the context is given
to send, under whatever span and policy, is sent with the trace id of the request and with these
credentials, if there are any, and otherwise as it was built: on every attempt the same, be the call
cut off at any point, and at least once unless its span cannot be started. -/
theorem handle_propagates (deadline : Deadline) (names : Names) (stamp : String) (route : Route)
    (request : Inbound) (handler : Handler ν) (patience : Option Duration)
    (generated : names.trace.toList.all isIdChar) {others : World ν → World ν → Prop} {w : World ν}
    {ds : List (Deed ν)} {e : Ending ν Handled}
    (course : Course others (handle deadline names stamp route request handler patience) w ds e) :
    ∃ p : Phased others (opening deadline names route request)
        (fun c => withinOption patience (execute deadline route request handler c)) stamp w ds e,
      p.handled.context = p.context ∧
      (∀ r, p.handled.response = some r →
        r.headers.getAll Headers.traceId = [p.context.traceId.toUTF8]) ∧
      ∀ (company : World ν → World ν → Prop) (settings : List Context.Setting) (w₁ w₂ : World ν)
        (ds₁ : List (Deed ν)) (bound : Context),
        Course company (Context.settle settings p.context) w₁ ds₁ (.done bound w₂) →
        bound.authorization = ((settings.filterMap (·.authorization?)).getLast?).or
          (request.headers.get? Headers.authorization) ∧
        ∀ (client : Client) (built : Request), client.context = bound →
          ∃ sent, built.Conveys p.context.traceId.toUTF8 bound.authorization sent ∧
            (client.send built : Activity ν _).Only (Call.Does sent) ∧
            ∀ (w₃ : World ν) (ds₃ : List (Deed ν))
              (e₃ : Ending ν (Except CallError Downstream.Response)),
              Course company (client.send built) w₃ ds₃ e₃ →
              ∃ n, sendings ds₃ = List.replicate n sent ∧
                (n = 0 → ∃ error last, e₃ = .done (.error (.trace error)) last) := by
  obtain ⟨p⟩ := nonempty_phased course
  obtain ⟨received, -⟩ := course_opening p.opened
  have shown := received.identified.shows (shows_of_isIdChar generated)
  refine ⟨p, p.context_eq, fun r told => p.traced_response shown told, ?_⟩
  intro company settings w₁ w₂ ds₁ bound set
  obtain ⟨_, _, ⟨⟩, same⟩ := set.assured (Context.settle_assures settings p.context)
  have trace : bound.traceId = p.context.traceId := by rw [same, Context.traceId_foldl]
  refine ⟨?_, fun client built isBound => ?_⟩
  · rw [same, Context.authorization_foldl, received.authorization]
  · subst isBound
    rw [← trace] at shown ⊢
    have sends := Client.send_eq (ν := ν) shown built
    refine ⟨_, client.context.forward_conveys built, ?_, fun w₃ ds₃ e₃ calling => ?_⟩
    · rw [sends]
      exact Call.only_run _ _ _
    · rw [sends] at calling
      exact sendings_run calling

/-- The first values that a request brings are passed on in the place of those that its handler puts
on a call, and its other header is kept. -/
theorem handle_propagates_replacing :
    let route : Route := ⟨"GET", "/cats/:id", "cats", "find_one", none⟩
    let names : Names := ⟨"t", "0b6d0ff1-a3a4-4f44-9b5c-5b0f5c8e2e9b"⟩
    let inbound : Inbound := ⟨"GET", "/cats/1",
      [("traceid", "trace 1".toUTF8), ("traceid", "trace 2".toUTF8),
        ("authorization", "first".toUTF8), ("authorization", "second".toUTF8)], .empty⟩
    let built : Request := ⟨"POST", "http://owners/1",
      [("traceid", "mine".toUTF8), ("x-cat", "1".toUTF8), ("authorization", "own".toUTF8),
        ("traceid", "again".toUTF8)], none, none⟩
    let calling : Handler Unit := fun c _ =>
      ((Client.ofContext .once c).send built).bind fun _ => done (.ok (.ofJson 200 ""))
    ∃ h last sent, (handle (.new none) names "" route inbound calling none).run
        (.start .alone [] ()) = .done h last ∧
      (∀ r, h.response = some r → r.headers.getAll "traceid" = ["trace 1".toUTF8]) ∧
      ((Client.ofContext .once h.context).send built : Activity Unit _).Only (Call.Does sent) ∧
      sent.headers.getAll "traceid" = ["trace 1".toUTF8] ∧
      sent.headers.getAll "authorization" = ["first".toUTF8] ∧
      sent.headers.filter (fun q => q.1 ≠ "traceid" ∧ q.1 ≠ "authorization") =
        [("x-cat", "1".toUTF8)] := by
  intro route names inbound built calling
  have alone := course_run (fun w : World Unit => Eq.refl w)
    (handle (.new none) names "" route inbound calling none) (.start .alone [] ())
  obtain ⟨p, context, answered, passed⟩ :=
    handle_propagates (.new none) names "" route inbound calling none (by decide) alone
  obtain ⟨received, -⟩ := course_opening p.opened
  have first : inbound.headers.get? Headers.traceId = some "trace 1".toUTF8 := rfl
  have credentials : inbound.headers.get? Headers.authorization = some "first".toUTF8 := rfl
  have trace := received.identified.brought _ first (by decide) (shows_toUTF8 (by decide))
  obtain ⟨authorization, sends⟩ := passed Eq [] p.begun p.begun [] p.context .done
  obtain ⟨sent, conveys, only, -⟩ := sends (Client.ofContext .once p.context) built rfl
  rw [trace, authorization, credentials] at conveys
  refine ⟨p.handled, p.last, sent, p.ending_eq, ?_, ?_, conveys.traceId, conveys.authorization,
    conveys.others⟩
  · intro r told
    rw [← trace]
    exact answered r told
  · rw [context]
    exact only

end Pipeline

end Ingress
