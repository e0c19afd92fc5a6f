import Ingress.Failure.Classification
import Ingress.Http.Text
import Ingress.Json.Printer
import Ingress.Route
import Ingress.Time.Calendar

/-!
# Error envelopes

A failed request is answered with one JSON object that has the same fields for every failure.
-/

namespace Ingress

/-- An answer of the service. -/
structure Response where
  status : Nat
  headers : Headers
  body : ByteArray

/-- An answer with a JSON body. -/
def Response.ofJson (status : Nat) (text : String) : Response :=
  ⟨status, [(Headers.contentType, "application/json".toUTF8)], text.toUTF8⟩

/-- A code as the status of an answer. One that does not have three digits becomes 500. -/
def Response.statusOf (code : Nat) : Nat := if 100 ≤ code ∧ code ≤ 999 then code else 500

/-- The body of the answer to a failed request. -/
structure Envelope where
  code : Nat
  traceId : String
  /-- Where it happened: the label of the failure, or else component and operation of the route. -/
  context : Option String
  messages : List String
  timestamp : String
  path : String
  retryAfter : Option Nat

namespace Envelope

/-- The envelope of a classified failure at a given time. -/
def format (traceId path : String) (route : Option Route) (c : Classification)
    (timestamp : String) : Envelope :=
  ⟨c.status, traceId, c.context.or (route.map Route.identity), c.messages, timestamp, path,
    c.retryAfter⟩

/-- The fields of the envelope in their written order. -/
def fields (e : Envelope) : List (String × Json) :=
  [("code", .ofNat e.code), ("traceid", .string e.traceId),
    ("context", .ofOption .string e.context),
    ("message", .array (e.messages.map .string)), ("timestamp", .string e.timestamp),
    ("path", .string e.path)]

/-- The envelope as a value. -/
def toJson (e : Envelope) : Json := .object [("error", .object (Dictionary.ofPairs e.fields))]

/-- The body that carries the envelope. -/
def body (e : Envelope) : String := (Json.object [("error", .object e.fields)]).write

/-- The answer that carries the envelope. A trace id that is no header value shows in the body
only. -/
def respond (e : Envelope) : Response :=
  let r := Response.ofJson (Response.statusOf e.code) e.body
  let traced := match Http.headerValue? e.traceId with
    | some v => r.headers.insert Headers.traceId v
    | none => r.headers
  let headers := match e.retryAfter with
    | some seconds => traced.insert Headers.retryAfter (toString seconds).toUTF8
    | none => traced
  { r with headers }

theorem status_respond {e : Envelope} (isStatus : 100 ≤ e.code ∧ e.code ≤ 999) :
    e.respond.status = e.code :=
  if_pos isStatus

open Json in
/-- The fields of a written envelope. -/
def shape : Shape Reading where
  title := "struct ErrorEnvelope"
  fields := [⟨"code", Decoder.fits (Decoder.unsigned 16 "u16"), false⟩,
    ⟨"traceid", Decoder.fits Decoder.text, false⟩,
    ⟨"context", Decoder.fits (Decoder.optional Decoder.text), false⟩,
    ⟨"message", Decoder.fits (Decoder.list Decoder.text), false⟩,
    ⟨"timestamp", Decoder.fits Decoder.text, false⟩,
    ⟨"path", Decoder.fits Decoder.text, false⟩]
  strict := false
  surplus := .malformed

open Json in
/-- Reads the envelope itself. -/
def decodeFields : Decoder Envelope := fun r => do
  let fs ← shape.decode r
  let code ← member (Decoder.unsigned 16 "u16") "code" fs
  let traceId ← member Decoder.text "traceid" fs
  let context ← memberD (Decoder.optional Decoder.text) "context" none fs
  let messages ← member (Decoder.list Decoder.text) "message" fs
  let timestamp ← member Decoder.text "timestamp" fs
  let path ← member Decoder.text "path" fs
  pure ⟨code, traceId, context, messages, timestamp, path, none⟩

open Json in
/-- The one field of a written body. -/
def bodyShape : Shape Reading where
  title := "struct Body"
  fields := [⟨"error", Decoder.fits decodeFields, false⟩]
  strict := false
  surplus := .malformed

open Json in
/-- Reads the body that carries an envelope. -/
def decode : Decoder Envelope := fun r => do
  let fs ← bodyShape.decode r
  member decodeFields "error" fs

/-- Reads an envelope out of the body of an answer. -/
def ofBody (body : ByteArray) : Except Json.Refusal Envelope := Json.decodeBytes decode body

end Envelope

end Ingress
