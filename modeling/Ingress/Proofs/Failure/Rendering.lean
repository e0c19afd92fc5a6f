import Ingress.Failure.Envelope
import Ingress.Proofs.Failure.Classifying
import Ingress.Proofs.Json.Decoding

/-!
# Answers to failed requests

The answer that carries an envelope has the status of the envelope, since every failure is
classified with a status that an answer can carry. The envelope is read back from the body, whatever
characters its texts have.
-/

namespace Ingress

namespace Envelope

open Json Json.Reading

variable {e : Envelope}

/-- The value that is written as the body. -/
def carrier (e : Envelope) : Json := .object [("error", .object e.fields)]

/-- Every code of sixteen bits is written exactly, and so are the texts. -/
theorem isExact_carrier (fits : e.code < 1 <<< 16) : e.carrier.IsExact := by
  have code : Number.IsExact (.int e.code) := by
    simp only [Number.IsExact, Number.maxSigned, Number.maxUnsigned, UInt64.size]
    omega
  have context : (Json.ofOption .string e.context).IsExact := by cases e.context <;> trivial
  exact ⟨⟨code, trivial, context, itemsExact_strings _, trivial, trivial, trivial⟩, trivial⟩

/-- An envelope is read back from its fields. -/
theorem decodeFields_fields (fits : e.code < 1 <<< 16) :
    decodeFields (ofJson (.object e.fields)) = .ok { e with retryAfter := none } := by
  have code := Decoder.unsigned_ofNat fits "u16"
  have text (s : String) : Decoder.text (ofJson (.string s)) = .ok s := rfl
  have context : Decoder.optional Decoder.text (ofJson (.ofOption .string e.context)) =
      .ok e.context :=
    Decoder.optional_ofOption (fun s _ => text s) fun _ _ => nofun
  have messages : Decoder.list Decoder.text (ofJson (.array (e.messages.map .string))) =
      .ok e.messages :=
    Decoder.list_array e.messages fun s _ => text s
  have each : ∀ m ∈ e.fields, shape.Fits m := by
    simp only [fields, List.forall_mem_cons]
    exact ⟨.of_reads rfl rfl code, .of_reads rfl rfl (text _), .of_reads rfl rfl context,
      .of_reads rfl rfl messages, .of_reads rfl rfl (text _), .of_reads rfl rfl (text _), by simp⟩
  obtain ⟨fs, decoded, found⟩ := Shape.decode_object each (by simp [fields])
  simp only [fields, List.forall_mem_cons] at found
  obtain ⟨atCode, atTrace, atContext, atMessages, atTime, atPath, -⟩ := found
  simp only [decodeFields, decoded, ok_bind, member_ok atCode code, member_ok atTrace (text _),
    memberD_ok atContext context, member_ok atMessages messages, member_ok atTime (text _),
    member_ok atPath (text _)]
  rfl

/-- The envelope is read back from its body, except for the delay, which the body does not hold. -/
theorem ofBody_body (fits : e.code < 1 <<< 16) :
    ofBody e.body.toUTF8 = .ok { e with retryAfter := none } := by
  have inner := decodeFields_fields fits
  have each : ∀ m ∈ [("error", Json.object e.fields)], bodyShape.Fits m :=
    List.forall_mem_singleton.2 (.of_reads rfl rfl inner)
  obtain ⟨fs, decoded, found⟩ := Shape.decode_object each (List.nodup_singleton _)
  have read : decode (ofJson e.carrier) = .ok { e with retryAfter := none } := by
    rw [decode, carrier, decoded]
    exact member_ok (found _ List.mem_cons_self) inner
  exact (decodeBytes_write (isExact_carrier fits) decode).trans read

example : body ⟨429, "t\\1", none, ["Too \"many\"", "Slow down"], "2024-03-01 12:00:00", "/cats",
    some 3⟩ = "\x7b\"error\":\x7b\"code\":429,\"traceid\":\"t\\\\1\",\"context\":null," ++
      "\"message\":[\"Too \\\"many\\\"\",\"Slow down\"]," ++
      "\"timestamp\":\"2024-03-01 12:00:00\",\"path\":\"/cats\"\x7d\x7d" := by
  decide +kernel

/-- The body holds the envelope as a value. -/
theorem ofBytes?_body (fits : e.code < 1 <<< 16) : ofBytes? e.body.toUTF8 = some e.toJson := by
  -- Two containers stand around each field.
  have context : (Json.ofOption .string e.context).Within 125 := by cases e.context <;> trivial
  have within : e.carrier.Within maxDepth :=
    ⟨⟨trivial, trivial, context, itemsWithin_strings _ _, trivial, trivial, trivial⟩, trivial⟩
  have context : (Json.ofOption .string e.context).ordered = .ofOption .string e.context := by
    cases e.context <;> rfl
  have same : e.carrier.ordered = e.toJson := by
    simp only [carrier, ordered, orderedMembers, fields, context, orderedItems_strings, toJson]
    rfl
  rw [← same]
  exact ofBytes?_write (isExact_carrier fits) within

theorem context_toJson (e : Envelope) :
    (e.toJson.get? "error").bind (Json.get? "context") = some (.ofOption .string e.context) := by
  simp [toJson, Json.get?, Dictionary.get?, Dictionary.ofPairs, fields, Dictionary.get?_insert]

/-- Beside the media type stand the trace id, if it is a header value, and the delay, if there is
one. -/
theorem headers_respond (e : Envelope) :
    e.respond.headers = (Headers.contentType, "application/json".toUTF8) ::
      (((Http.headerValue? e.traceId).map (Headers.traceId, ·)).toList ++
        (e.retryAfter.map fun seconds =>
          (Headers.retryAfter, (toString seconds).toUTF8)).toList) := by
  unfold respond
  cases Http.headerValue? e.traceId <;> cases e.retryAfter <;>
    simp [Response.ofJson, Headers.insert, Headers.contentType, Headers.traceId, Headers.retryAfter]

theorem getAll_respond (e : Envelope) :
    e.respond.headers.getAll Headers.contentType = ["application/json".toUTF8] ∧
    e.respond.headers.getAll Headers.traceId = (Http.headerValue? e.traceId).toList ∧
    e.respond.headers.getAll Headers.retryAfter =
      (e.retryAfter.map fun seconds => (toString seconds).toUTF8).toList ∧
    ∀ h ∈ e.respond.headers, h.1 ∈ [Headers.contentType, Headers.traceId, Headers.retryAfter] := by
  rw [headers_respond]
  cases Http.headerValue? e.traceId <;> cases e.retryAfter <;>
    simp [Headers.getAll, Headers.contentType, Headers.traceId, Headers.retryAfter]

end Envelope

namespace Failure

/-- The seconds after which a request that was one too many may come again, if they are known. -/
def delay? (f : Failure) : Option Nat :=
  match f.root with
  | .rateLimited seconds => seconds
  | _ => none

theorem retryAfter_classify (f : Failure) : f.classify.retryAfter = f.delay? := by
  have downstream (d : Downstream.Failure) : (Classification.ofDownstream d).retryAfter = none := by
    unfold Classification.ofDownstream
    split <;> rfl
  change (Classification.ofRoot f.root).retryAfter = _
  unfold delay?
  cases f.root with
  | downstream d => exact downstream d
  | internal fault =>
    obtain ⟨notes, base⟩ := fault
    cases base with
    | downstream d => exact downstream d
    | message _ | trace _ => rfl
  | _ => rfl

/-- What clients get of a failed request, whatever the texts of the request and its route are:

* the answer has the status that the envelope tells and the failure is classified with, and this is
  the status of an error;
* its headers are the media type, the trace id if that is a header value, and the seconds to wait if
  there were too many requests and the seconds are known;
* the envelope is read back from the body with all that the body tells, and the context in the body
  is `null` exactly if neither the failure has a label nor the request a route;
* the value that the body holds is that of the envelope. -/
theorem respond_settles (traceId path : String) (route : Option Route) (f : Failure)
    (instant : Int) :
    let e := Envelope.format traceId path route f.classify (Calendar.stamp instant)
    let r := e.respond
    (r.status = e.code ∧ e.code = f.classify.status ∧ 400 ≤ r.status ∧ r.status ≤ 599) ∧
    (r.headers.getAll Headers.contentType = ["application/json".toUTF8] ∧
      r.headers.getAll Headers.traceId =
        (if traceId.toUTF8.toList.all Http.isValueByte then [traceId.toUTF8] else []) ∧
      r.headers.getAll Headers.retryAfter =
        (f.delay?.map fun seconds => (toString seconds).toUTF8).toList ∧
      ∀ h ∈ r.headers, h.1 ∈ [Headers.contentType, Headers.traceId, Headers.retryAfter]) ∧
    (Envelope.ofBody r.body =
        .ok ⟨f.classify.status, traceId, f.label?.or (route.map Route.identity),
          f.classify.messages, Calendar.stamp instant, path, none⟩ ∧
      (((Json.ofBytes? r.body).bind (Json.get? "error")).bind (Json.get? "context") = some .null ↔
        f.label? = none ∧ route = none)) ∧
    Json.ofBytes? r.body = some e.toJson := by
  intro e r
  obtain ⟨least, most⟩ := Classification.isErrorStatus_iff.1 f.isErrorStatus_classify
  have status : r.status = f.classify.status :=
    Envelope.status_respond ⟨Nat.le_trans (by decide) least, Nat.le_trans most (by decide)⟩
  have fits : e.code < 1 <<< 16 := Nat.lt_of_le_of_lt most (by decide)
  have body : Json.ofBytes? r.body = some e.toJson := Envelope.ofBytes?_body fits
  obtain ⟨media, trace, delay, others⟩ := e.getAll_respond
  refine ⟨⟨status, rfl, status ▸ least, status ▸ most⟩, ⟨media, ?_, ?_, others⟩,
    ⟨Envelope.ofBody_body fits, ?_⟩, body⟩
  · rw [trace]
    change (Http.headerValue? traceId).toList = _
    simp only [Http.headerValue?]
    split <;> rfl
  · rw [delay, ← retryAfter_classify]
    rfl
  · rw [body, Option.bind_some, Envelope.context_toJson]
    change some (Json.ofOption .string (f.label?.or (route.map Route.identity))) = _ ↔ _
    cases f.label? <;> cases route <;> simp [Json.ofOption]

end Failure

end Ingress
