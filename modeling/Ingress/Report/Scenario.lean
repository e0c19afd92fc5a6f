import Ingress.Report.Failure
import Ingress.Scenario.Play

/-!
# Reports of scenarios
-/

namespace Ingress.Report

open Scenario

/-- The value of an attribute with its type, and its text. -/
def attr (a : Span.Attribute) : List Json :=
  let value := match a with
    | .text s => Json.array [.string "str", .string s]
    | .int i => .array [.string "int", .number (.int i)]
    | .float x => .array [.string "float", .string (Decimal.Layout.plain.write x)]
    | .bool b => .array [.string "bool", .bool b]
  [value, .string a.display]

/-- Attributes with their names. -/
def attributes (d : Dictionary Span.Attribute) : Json :=
  .array (d.map fun (k, a) => .array (.string k :: attr a))

/-- The value of an attribute that may be missing. -/
def attributeValue (a : Option Span.Attribute) : Json :=
  match a.map attr with
  | some (v :: _) => v
  | _ => .null

/-- How the operation of a span ended. -/
def status : Span.Status → Json
  | .unset => .object [("code", .string "unset")]
  | .ok => .object [("code", .string "ok")]
  | .error m => .object [("code", .string "error"), ("message", .string m)]

/-- An attribute of a span and of its events, and how many events have that name. -/
def asked (span : Span) (key : String) : Json :=
  let named := span.eventsNamed key
  .array [attributeValue (span.attributes.get? key), .ofNat named.length,
    .array (span.events.map fun e => attributeValue (e.attributes.get? key))]

/-- The kind of an error of a span tree. -/
def traceErrorKind : TraceError → String
  | .parentFinished _ => "ParentFinished"
  | .foreignSpan .. => "ForeignSpan"

/-- An event; those of spans and stages in short. -/
def logEvent : Log.Event → Json
  | .spanFinished trace _ span =>
    .object [("finished", .string span.name), ("traceid", .string trace)]
  | .stage a b => .object [("state", .string (a.name ++ ">" ++ b.name))]
  | e => .object [("log", .string (e.level.name ++ " " ++ e.message)),
    ("fields", .object ((e.fields.filter (·.1 ≠ "status")).map fun (k, v) =>
      (k, .string v.display)))]

/-- A request as it went over the network. -/
def sentRequest (r : Downstream.Request) : Json :=
  .object [("method", .string r.method), ("url", .string r.url), ("headers", headers r.headers),
    ("body", .ofOption bytes r.body)]

/-- How steps ended, if they ended themselves. -/
def ending : Option End → Json
  | none => .null
  | some (.ok r) => response r
  | some (.error f) => .object (failure f)

end Ingress.Report
