import Ingress.Proofs.Failure.Classifying

/-!
# What classification discloses

A classification is made from a small part of a failure. Texts that were written for the log, the
address and the body of a failed call, the notes of a fault and the route of a timeout are no part
of it: failures that differ in these alone are told of in the same words.
-/

namespace Ingress

namespace Classification

/-- The message of a status is one of the table, or else the supplied one. -/
theorem statusMessage_eq {status : Nat} {supplied : Option String} {m : String}
    (told : statusMessage status supplied = m) :
    (∃ s, standardMessage? s = some m) ∨ supplied = some m ∧ standardMessage? status = none := by
  unfold statusMessage at told
  cases standard : standardMessage? status with
  | some text =>
    rw [standard] at told
    exact .inl ⟨status, standard.trans (congrArg some told)⟩
  | none =>
    rw [standard] at told
    cases supplied with
    | some text => exact .inr ⟨congrArg some told, rfl⟩
    | none => exact .inl ⟨500, congrArg some told⟩

/-- A supplied message counts only where there is no standard one. -/
theorem statusMessage_of_standard {status : Nat} (standard : standardMessage? status ≠ none)
    (a b : Option String) : statusMessage status a = statusMessage status b := by
  obtain ⟨text, found⟩ := Option.ne_none_iff_exists'.1 standard
  rw [statusMessage, statusMessage, found]
  rfl

end Classification

namespace Failure

open Classification

/-- What a failure is beneath its labels. A fault with a failed call at the bottom is a variant of
its own. -/
inductive Variant
  | validation
  | unauthenticated
  | unauthorized
  | notFound
  | conflict
  | unprocessable
  | rateLimited
  | status
  | timeout
  | downstream
  | internalDownstream
  | internal
deriving DecidableEq

/-- The variant of a failure. -/
def variant : Failure → Variant
  | .validation _ => .validation
  | .unauthenticated _ => .unauthenticated
  | .unauthorized _ => .unauthorized
  | .notFound _ => .notFound
  | .conflict _ => .conflict
  | .unprocessable _ => .unprocessable
  | .rateLimited _ => .rateLimited
  | .status _ _ => .status
  | .timeout _ _ => .timeout
  | .downstream _ => .downstream
  | .internal ⟨_, .downstream _⟩ => .internalDownstream
  | .internal _ => .internal
  | .labelled _ inner => inner.variant

/-- The part of a failure that its classification is made from. -/
structure Disclosed where
  variant : Variant
  /-- The outermost label. -/
  label : Option String
  violations : List Violation
  explicitStatus : Option Nat
  /-- The message that came with a chosen status, if that is of an error and has no standard one. -/
  supplied : Option String
  limitMillis : Option Nat
  retryAfter : Option Nat
  answerStatus : Option Nat
  embeddedCode : Option Nat
  networkCode : Option Downstream.NetworkCode

/-- The departures of a failed validation. -/
def violations : Failure → List Violation
  | .validation vs => vs
  | .labelled _ inner => inner.violations
  | _ => []

/-- The message that came with a chosen status, if clients may see it. -/
def supplied? : Failure → Option String
  | .status s m => if isErrorStatus s ∧ standardMessage? s = none then m else none
  | .labelled _ inner => inner.supplied?
  | _ => none

/-- The limit of a timeout in whole milliseconds. -/
def limitMillis? : Failure → Option Nat
  | .timeout limit _ => some limit.millis
  | .labelled _ inner => inner.limitMillis?
  | _ => none

/-- The seconds after which a refused client may try again. -/
def retryAfter? : Failure → Option Nat
  | .rateLimited seconds => seconds
  | .labelled _ inner => inner.retryAfter?
  | _ => none

/-- What a failure discloses. -/
def disclosed (f : Failure) : Disclosed where
  variant := f.variant
  label := f.label?
  violations := f.violations
  explicitStatus := f.explicitStatus?
  supplied := f.supplied?
  limitMillis := f.limitMillis?
  retryAfter := f.retryAfter?
  answerStatus := f.downstream?.bind (·.status?)
  embeddedCode := (f.downstream?.bind (·.response?)).bind (·.embeddedCode?)
  networkCode := f.downstream?.bind (·.networkCode?)

namespace Disclosed

/-- Whether a failed call is at the bottom. -/
def ofCall (d : Disclosed) : Bool := d.variant = .downstream ∨ d.variant = .internalDownstream

/-- The status of what discloses this. -/
def status (d : Disclosed) : Nat :=
  if d.ofCall then
    ((d.answerStatus.filter isErrorStatus).or (d.embeddedCode.filter isErrorStatus)).getD 500
  else errorStatus d.explicitStatus

/-- The messages of what discloses this, the one of the status aside. -/
def messages (d : Disclosed) : List String :=
  d.violations.map formatViolation ++
    d.limitMillis.toList.map (fun ms =>
      "Request exceeded the maximum duration of " ++ toString ms ++ "ms") ++
    d.networkCode.toList.map (·.message)

/-- The classification of what discloses this. -/
def classification (d : Disclosed) : Classification where
  status := d.status
  kind := if d.ofCall then .downstreamFailure else Kind.ofStatus d.status
  messages := if d.messages.isEmpty then [statusMessage d.status d.supplied] else d.messages
  context := d.label
  retryAfter := d.retryAfter

theorem mem_messages {d : Disclosed} {m : String} (told : m ∈ d.classification.messages) :
    m = statusMessage d.status d.supplied ∨ m ∈ d.messages := by
  dsimp only [classification] at told
  split at told
  · exact .inl (List.mem_singleton.1 told)
  · exact .inr told

end Disclosed

theorem ofCall_disclosed (f : Failure) : f.disclosed.ofCall = f.downstream?.isSome := by
  induction f with
  | labelled _ _ ih => exact ih
  | internal fault =>
    obtain ⟨notes, base⟩ := fault
    cases base <;> rfl
  | _ => rfl

theorem ofRoot_of_downstream? {f : Failure} {d : Downstream.Failure}
    (found : f.downstream? = some d) : ofRoot f.root = ofDownstream d := by
  induction f with
  | labelled _ _ ih => exact ih found
  | downstream _ =>
    cases found
    rfl
  | internal fault =>
    obtain ⟨notes, base⟩ := fault
    cases base <;> cases found
    rfl
  | _ => cases found

theorem status_disclosed (f : Failure) : f.classify.status = f.disclosed.status := by
  rw [Disclosed.status, ofCall_disclosed]
  cases found : f.downstream? with
  | none => exact status_classify found
  | some d =>
    have told : f.classify.status = (ofDownstream d).status := by
      rw [classify, ofRoot_of_downstream? found]
    rw [told, disclosed, found]
    unfold ofDownstream
    cases d with
    | mk method url attempts cause => cases cause <;> rfl

theorem kind_disclosed (f : Failure) : f.classify.kind = f.disclosed.classification.kind := by
  rw [Disclosed.classification, ofCall_disclosed, ← status_disclosed]
  cases found : f.downstream? with
  | none =>
    rw [kind_classify found, kind_eq_ofStatus found, status_classify found]
    rfl
  | some d =>
    have told : f.classify.kind = (ofDownstream d).kind := by
      rw [classify, ofRoot_of_downstream? found]
    rw [told, ofDownstream]
    split <;> rfl

theorem messages_ofDownstream (d : Downstream.Failure) :
    (ofDownstream d).messages = d.networkCode?.toList.map (·.message) := by
  cases d with
  | mk method url attempts cause =>
    cases cause with
    | answered _ => rfl
    | network code _ => cases code <;> rfl

theorem messages_disclosed (f : Failure) : (ofRoot f.root).messages = f.disclosed.messages := by
  induction f with
  | labelled _ _ ih => exact ih
  | validation vs => exact (List.append_nil _).symm.trans (List.append_nil _).symm
  | downstream d => exact messages_ofDownstream d
  | internal fault =>
    obtain ⟨notes, base⟩ := fault
    cases base with
    | downstream d => exact messages_ofDownstream d
    | _ => rfl
  | _ => rfl

theorem retryAfter_disclosed (f : Failure) : f.classify.retryAfter = f.retryAfter? := by
  have call (d : Downstream.Failure) : (ofDownstream d).retryAfter = none := by
    unfold ofDownstream
    split <;> rfl
  induction f with
  | labelled _ _ ih => exact ih
  | downstream d => exact call d
  | internal fault =>
    obtain ⟨notes, base⟩ := fault
    cases base with
    | downstream d => exact call d
    | _ => rfl
  | _ => rfl

/-- A supplied message that is not disclosed does not count. -/
theorem statusMessage_supplied? (f : Failure) :
    statusMessage f.classify.status f.suppliedMessage? =
      statusMessage f.classify.status f.supplied? := by
  induction f with
  | labelled _ _ ih => exact ih
  | status s m =>
    have chosen : (status s m).classify.status = errorStatus (some s) := rfl
    rw [chosen, supplied?]
    split
    · rfl
    · next hidden =>
      refine statusMessage_of_standard (fun missing => hidden ?_) _ _
      by_cases error : isErrorStatus s
      · rw [errorStatus_of_isErrorStatus error] at missing
        exact ⟨error, missing⟩
      · rw [errorStatus_of_not_isErrorStatus (by rintro _ ⟨⟩; exact error)] at missing
        cases missing
  | _ => rfl

/-- A classification is made from what its failure discloses. -/
theorem classify_eq_disclosed (f : Failure) : f.classify = f.disclosed.classification := by
  have messages : f.classify.messages = f.disclosed.classification.messages := by
    have told : f.classify.messages =
        if (ofRoot f.root).messages.isEmpty then
          [statusMessage f.classify.status f.suppliedMessage?]
        else (ofRoot f.root).messages := rfl
    rw [told, statusMessage_supplied?, messages_disclosed, status_disclosed]
    rfl
  calc f.classify = ⟨f.classify.status, f.classify.kind, f.classify.messages, f.label?,
        f.classify.retryAfter⟩ := rfl
    _ = f.disclosed.classification := by
      rw [status_disclosed, kind_disclosed, messages, retryAfter_disclosed]
      rfl

theorem violations_eq_nil {f : Failure} (other : f.variant ≠ .validation) : f.violations = [] := by
  induction f with
  | labelled _ _ ih => exact ih other
  | validation _ => exact absurd rfl other
  | _ => rfl

theorem limitMillis?_eq_none {f : Failure} (other : f.variant ≠ .timeout) :
    f.limitMillis? = none := by
  induction f with
  | labelled _ _ ih => exact ih other
  | timeout _ _ => exact absurd rfl other
  | _ => rfl

theorem supplied?_eq_some {f : Failure} {m : String} (supplied : f.supplied? = some m) :
    ∃ s, f.root = .status s (some m) ∧ 400 ≤ s ∧ s ≤ 599 ∧ standardMessage? s = none := by
  induction f with
  | labelled _ _ ih => exact ih supplied
  | status s text =>
    rw [supplied?] at supplied
    split at supplied
    · next shown =>
      obtain ⟨least, most⟩ := isErrorStatus_iff.1 shown.1
      exact ⟨s, congrArg (status s) supplied, least, most, shown.2⟩
    · cases supplied
  | _ => cases supplied

/-- Failures that disclose the same are told of in the same way, however much else of them differs.
And of a failure that is neither a failed validation nor a timeout every message is one of the
tables for statuses and network codes, or the one that came with a chosen status of an error that
has no standard message. -/
theorem classify_discloses :
    (∀ f g : Failure, f.disclosed = g.disclosed → f.classify = g.classify) ∧
    ∀ f : Failure, f.variant ≠ .validation → f.variant ≠ .timeout → ∀ m ∈ f.classify.messages,
      (∃ s, standardMessage? s = some m) ∨ (∃ code : Downstream.NetworkCode, code.message = m) ∨
        ∃ s, f.root = .status s (some m) ∧ 400 ≤ s ∧ s ≤ 599 ∧ standardMessage? s = none := by
  refine ⟨fun f g same => ?_, fun f notValidation notTimeout m told => ?_⟩
  · rw [classify_eq_disclosed f, classify_eq_disclosed g, same]
  · have messages : f.disclosed.messages = f.disclosed.networkCode.toList.map (·.message) := by
      have noViolations : f.disclosed.violations = [] := violations_eq_nil notValidation
      have noLimit : f.disclosed.limitMillis = none := limitMillis?_eq_none notTimeout
      rw [Disclosed.messages, noViolations, noLimit]
      rfl
    rw [classify_eq_disclosed] at told
    rcases Disclosed.mem_messages told with ofStatus | own
    · rcases statusMessage_eq ofStatus.symm with table | ⟨supplied, -⟩
      · exact .inl table
      · exact .inr (.inr (supplied?_eq_some supplied))
    · rw [messages] at own
      obtain ⟨code, -, same⟩ := List.mem_map.1 own
      exact .inr (.inl ⟨code, same⟩)

/-- A call to another address that failed in other words and was noted otherwise is told of in the
same way, and the text of a status without a standard message shows. -/
theorem classify_discloses_call :
    let noted (note url text : String) (attempts : Nat) : Failure :=
      .labelled "cats" (.internal ⟨[note], .downstream
        ⟨"GET", url, attempts, .network (some .timedOut) text⟩⟩)
    let teapot : Failure := .labelled "tea" (.status 418 (some "short and stout"))
    (noted "owner 7" "http://owners/7" "no answer" 3).classify =
      (noted "" "http://10.0.0.1/secret" "10.0.0.1 is silent" 1).classify ∧
    ∀ m ∈ teapot.classify.messages,
      (∃ s, standardMessage? s = some m) ∨ (∃ code : Downstream.NetworkCode, code.message = m) ∨
        ∃ s, teapot.root = .status s (some m) ∧ 400 ≤ s ∧ s ≤ 599 ∧ standardMessage? s = none := by
  intro noted teapot
  obtain ⟨alike, told⟩ := classify_discloses
  exact ⟨alike _ _ rfl, told teapot (by decide) (by decide)⟩

end Failure

end Ingress
