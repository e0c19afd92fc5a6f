import Ingress.Proofs.Failure.Disclosure
import Ingress.Proofs.Json.Roundtrip

/-!
# Statuses in bodies

The status that is told of a failed call is that of the answer, if it is the status of an error.
Otherwise it is the one that the body names in its member `code`, or in that of its member `error`
if there is no `code`, provided that it is of an error. Without any it is 500. A `code` that is
there but names no such status hides the other one.
-/

namespace Ingress

namespace Text

theorem readNat?_eq_some_iff {s : String} {n : Nat} :
    readNat? s = some n ↔ ∃ digits, (s.toList = digits ∨ s.toList = '+' :: digits) ∧ digits ≠ [] ∧
      (∀ c ∈ digits, c.isDigit) ∧ numeral digits = n := by
  unfold readNat?
  split
  · next digits signed =>
    simp only [signed, Option.ite_none_right_eq_some, List.all_eq_true, Option.some.injEq]
    constructor
    · rintro ⟨⟨filled, all⟩, value⟩
      exact ⟨digits, .inr rfl, filled, all, value⟩
    · rintro ⟨other, same, filled, all, value⟩
      rcases same with rfl | same
      · exact absurd (all '+' List.mem_cons_self) (by decide)
      · cases same
        exact ⟨⟨filled, all⟩, value⟩
  · next unsigned =>
    simp only [Option.ite_none_right_eq_some, List.all_eq_true, Option.some.injEq]
    constructor
    · rintro ⟨⟨filled, all⟩, value⟩
      exact ⟨_, .inl rfl, filled, all, value⟩
    · rintro ⟨digits, rfl | signed, filled, all, value⟩
      · exact ⟨⟨filled, all⟩, value⟩
      · exact absurd signed (unsigned digits)

end Text

namespace Downstream.Response

/-- A value names a number: it is that number, or a string of its decimal digits, which may have a
plus sign and zeros in front. -/
inductive Names : Json → Nat → Prop
  | number (n : Nat) : Names (.number (.int n)) n
  | text {s : String} {digits : List Char} :
    s.toList = digits ∨ s.toList = '+' :: digits → digits ≠ [] → (∀ c ∈ digits, c.isDigit) →
      Names (.string s) (Text.numeral digits)

theorem statusOf?_eq_some_iff {j : Json} {n : Nat} (fits : n < UInt64.size) :
    statusOf? j = some n ↔ Names j n := by
  constructor
  · intro read
    cases j with
    | number number =>
      cases number with
      | float x => cases read
      | int i =>
        obtain ⟨sign, same⟩ := Option.ite_none_right_eq_some.1 read
        cases same
        have := Names.number i.toNat
        rwa [Int.toNat_of_nonneg sign] at this
    | string s =>
      obtain ⟨digits, same, filled, all, rfl⟩ :=
        Text.readNat?_eq_some_iff.1 (Option.filter_eq_some_iff.1 read).1
      exact .text same filled all
    | _ => cases read
  · intro names
    cases names with
    | number n =>
      rw [statusOf?, Json.Number.toUnsigned?, if_pos (Int.natCast_nonneg n), Int.toNat_natCast]
    | text same filled all =>
      exact Option.filter_eq_some_iff.2
        ⟨Text.readNat?_eq_some_iff.2 ⟨_, same, filled, all, rfl⟩, decide_eq_true fits⟩

/-- The body of an answer names a status: in its member `code`, or in that of its member `error` if
it has no `code`. -/
inductive Embeds (r : Response) (n : Nat) : Prop
  | ofCode {body code : Json} :
    Json.ofBytes? r.body = some body → body.get? "code" = some code → Names code n → Embeds r n
  | ofError {body error code : Json} :
    Json.ofBytes? r.body = some body → body.get? "code" = none →
      body.get? "error" = some error → error.get? "code" = some code → Names code n → Embeds r n

theorem codeMember?_eq_some_iff {body code : Json} :
    codeMember? body = some code ↔ body.get? "code" = some code ∨
      body.get? "code" = none ∧ ∃ error, body.get? "error" = some error ∧
        error.get? "code" = some code := by
  rw [codeMember?, Option.or_eq_some_iff, Option.bind_eq_some_iff]

theorem embeddedCode?_eq_some_iff {r : Response} {n : Nat} :
    r.embeddedCode? = some n ↔ 100 ≤ n ∧ n ≤ 599 ∧ r.Embeds n := by
  have fits (most : n ≤ 599) : n < UInt64.size := Nat.lt_of_le_of_lt most (by decide)
  unfold embeddedCode?
  simp only [Option.bind_eq_bind, Option.bind_eq_some_iff, Option.ite_none_right_eq_some,
    Option.some.injEq]
  constructor
  · rintro ⟨body, isBody, code, member, _, names, ⟨least, most⟩, rfl⟩
    rw [statusOf?_eq_some_iff (fits most)] at names
    rcases codeMember?_eq_some_iff.1 member with here | ⟨missing, error, inner, here⟩
    · exact ⟨least, most, .ofCode isBody here names⟩
    · exact ⟨least, most, .ofError isBody missing inner here names⟩
  · rintro ⟨least, most, embeds⟩
    cases embeds with
    | ofCode isBody here names =>
      exact ⟨_, isBody, _, codeMember?_eq_some_iff.2 (.inl here), n,
        (statusOf?_eq_some_iff (fits most)).2 names, ⟨least, most⟩, rfl⟩
    | ofError isBody missing inner here names =>
      exact ⟨_, isBody, _, codeMember?_eq_some_iff.2 (.inr ⟨missing, _, inner, here⟩), n,
        (statusOf?_eq_some_iff (fits most)).2 names, ⟨least, most⟩, rfl⟩

end Downstream.Response

namespace Failure

open Classification Downstream Response

theorem status_classify_answered {f : Failure} {d : Downstream.Failure} {r : Response}
    (found : f.downstream? = some d) (answered : d.cause = .answered r) :
    f.classify.status =
      (((some r.status).filter isErrorStatus).or
        (r.embeddedCode?.filter isErrorStatus)).getD 500 := by
  have told : f.classify.status = (ofDownstream d).status := by
    rw [classify, ofRoot_of_downstream? found]
  rw [told, ofDownstream, answered]

theorem embedded_eq_some_iff {r : Response} {n : Nat} :
    r.embeddedCode?.filter isErrorStatus = some n ↔ (400 ≤ n ∧ n ≤ 599) ∧ r.Embeds n := by
  rw [Option.filter_eq_some_iff, embeddedCode?_eq_some_iff, isErrorStatus_iff]
  constructor
  · rintro ⟨⟨-, -, embeds⟩, error⟩
    exact ⟨error, embeds⟩
  · rintro ⟨error, embeds⟩
    exact ⟨⟨Nat.le_trans (by decide) error.1, error.2, embeds⟩, error⟩

/-- A failed call that was answered, labelled or noted in whatever way, is told of with the status
of the answer if that is of an error, or else with the status of an error that the body names, or
else with 500. -/
theorem classify_answered {f : Failure} {d : Downstream.Failure} {r : Response}
    (found : f.downstream? = some d) (answered : d.cause = .answered r) :
    (400 ≤ r.status ∧ r.status ≤ 599 → f.classify.status = r.status) ∧
    (¬ (400 ≤ r.status ∧ r.status ≤ 599) →
      (∀ n, 400 ≤ n ∧ n ≤ 599 → r.Embeds n → f.classify.status = n) ∧
      ((∀ n, 400 ≤ n ∧ n ≤ 599 → ¬ r.Embeds n) → f.classify.status = 500)) := by
  rw [status_classify_answered found answered]
  refine ⟨fun error => ?_, fun other => ?_⟩
  · rw [Option.filter_some_pos (isErrorStatus_iff.2 error), Option.some_or, Option.getD_some]
  · have dropped : (some r.status).filter isErrorStatus = none :=
      Option.filter_some_neg (Bool.eq_false_iff.2 fun error => other (isErrorStatus_iff.1 error))
    rw [dropped, Option.none_or]
    refine ⟨fun n error embeds => ?_, fun none => ?_⟩
    · rw [embedded_eq_some_iff.2 ⟨error, embeds⟩, Option.getD_some]
    · cases embedded : r.embeddedCode?.filter isErrorStatus with
      | none => rfl
      | some n =>
        obtain ⟨error, embeds⟩ := embedded_eq_some_iff.1 embedded
        exact absurd embeds (none n error)

/-- An answer that looks like a success tells of a conflict in its body, in digits. -/
theorem classify_answered_conflict :
    let body : Json := .object [("error", .object [("code", .string "409")])]
    let r : Response := .new 200 body.write.toUTF8
    let f : Failure := .labelled "cats" (.downstream ⟨"GET", "http://cats/1", 1, .answered r⟩)
    ¬ (400 ≤ r.status ∧ r.status ≤ 599) ∧ r.Embeds 409 ∧ f.classify.status = 409 := by
  intro body r f
  have isBody : Json.ofBytes? r.body = some body := Json.ofBytes?_write (by trivial) (by trivial)
  have names : Names (.string "409") (Text.numeral ['4', '0', '9']) :=
    .text (.inl rfl) (by decide) (List.all_eq_true.1 rfl)
  have embeds : r.Embeds 409 := .ofError isBody rfl rfl rfl names
  have other : ¬ (400 ≤ r.status ∧ r.status ≤ 599) := by decide
  exact ⟨other, embeds, ((classify_answered (f := f) rfl rfl).2 other).1 409 (by decide) embeds⟩

/-- A `code` that is no status hides the `code` of `error`. -/
theorem code_of_error_hidden :
    ¬ ∀ (d : Downstream.Failure) (r : Response) (body error code : Json) (n : Nat),
      d.cause = .answered r → ¬ (400 ≤ r.status ∧ r.status ≤ 599) →
      Json.ofBytes? r.body = some body →
      (∀ own m, body.get? "code" = some own → Names own m → ¬ (400 ≤ m ∧ m ≤ 599)) →
      body.get? "error" = some error → error.get? "code" = some code → Names code n →
      400 ≤ n ∧ n ≤ 599 → (Failure.downstream d).classify.status = n := by
  intro shown
  let error : Json := .object [("code", .number (.int 404))]
  let body : Json := .object [("code", .string "E_BAD"), ("error", error)]
  let r : Response := .new 200 body.write.toUTF8
  have number : Json.Number.IsExact (.int 404) := ⟨by decide, by decide⟩
  have later : ¬ "error" < "code" := by decide
  have other : "code" ≠ "error" := by decide
  have ordered : body.ordered = body := by
    simp only [body, error, Json.ordered, Json.orderedMembers, Dictionary.ofPairs, List.foldl_cons,
      List.foldl_nil, Dictionary.insert, if_neg later, if_neg other]
  have isBody : Json.ofBytes? r.body = some body := by
    rw [← ordered]
    exact Json.ofBytes?_write ⟨trivial, ⟨number, trivial⟩, trivial⟩
      ⟨trivial, ⟨trivial, trivial⟩, trivial⟩
  have success : ¬ (400 ≤ r.status ∧ r.status ≤ 599) := by decide
  have noNumber : statusOf? (.string "E_BAD") = none := by decide +kernel
  have member : codeMember? body = some (.string "E_BAD") := rfl
  have embedded : r.embeddedCode? = none := by simp [embeddedCode?, isBody, member, noNumber]
  let d : Downstream.Failure := ⟨"GET", "http://cats/1", 1, .answered r⟩
  have hidden : (Failure.downstream d).classify.status = 500 := by
    rw [status_classify_answered rfl rfl, embedded]
    rfl
  have told := shown d r body error (.number (.int 404)) 404 rfl success isBody
    (fun own m here names error => ?_) rfl rfl (.number 404) (by decide)
  · rw [hidden] at told
    cases told
  · cases here
    have read := (statusOf?_eq_some_iff (Nat.lt_of_le_of_lt error.2 (by decide))).2 names
    rw [noNumber] at read
    cases read

end Failure

end Ingress
