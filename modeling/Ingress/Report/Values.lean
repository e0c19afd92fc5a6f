import Ingress.Failure.Envelope
import Ingress.Http.Headers
import Ingress.Json.Printer

/-!
# Reports of plain values

Reports show what the parts of a service are and do as JSON values: here of texts, numbers, bytes,
headers, and of JSON texts that are refused.
-/

namespace Ingress.Report

/-- Some texts. -/
def texts (l : List String) : Json := .array (l.map .string)

/-- A text that may be missing. -/
def optText (o : Option String) : Json := .ofOption .string o

/-- A number that may be missing. -/
def optNat (o : Option Nat) : Json := .ofOption .ofNat o

/-- A number that may be too large for other readers, as a text. -/
def digits (n : Nat) : Json := .string (toString n)

/-- Bytes as a text, or in base sixteen if they are none. -/
def bytes (b : ByteArray) : Json :=
  match String.fromUTF8? b with
  | some s => .string s
  | none => .object [("hex", .string (String.ofList (b.toList.flatMap fun x =>
      [Json.hexDigit (x.toNat / 16), Json.hexDigit (x.toNat % 16)])))]

/-- An error with its sentence. -/
def errorOf (kind : String) (message : String) : Json :=
  .object [("error", .string kind), ("message", .string message)]

/-- An error without a sentence. -/
def errorOnly (kind : String) : Json := .object [("error", .string kind)]

/-- Why a JSON text was refused. -/
def refusal : Json.Refusal → Json
  | .malformed => errorOnly "JsonSyntax"
  | .unfit why => errorOf "JsonData" (why.message .json)

/-- What a JSON text was read as, or why it was refused. -/
def answer (f : α → Json) : Except Json.Refusal α → Json
  | .ok a => f a
  | .error e => refusal e

/-- The order of headers: by name, then by value. -/
def headerLe (a b : String × ByteArray) : Bool :=
  if a.1 = b.1 then compare a.2.toList b.2.toList != .gt else decide (a.1 ≤ b.1)

/-- Headers in their order. -/
def headers (h : Headers) : Json :=
  .array ((h.mergeSort headerLe).map fun p => .array [.string p.1, bytes p.2])

/-- A response. -/
def response (r : Response) : Json :=
  .object [("status", .ofNat r.status), ("headers", headers r.headers), ("body", bytes r.body)]

end Ingress.Report
