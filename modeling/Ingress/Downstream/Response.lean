import Ingress.Http.Headers
import Ingress.Json.Reading

/-!
# Answers of other services

The answer to one attempt of an outbound call, of any status. Some services put the status of a
failure into the body of an answer that looks like a success.
-/

namespace Ingress.Downstream

/-- An answer. -/
structure Response where
  status : Nat
  headers : Headers
  body : ByteArray

namespace Response

/-- An answer without headers. -/
def new (status : Nat) (body : ByteArray) : Response := ⟨status, [], body⟩

/-- Statuses from 200 to 399 are successes. -/
def isSuccess (r : Response) : Bool := 200 ≤ r.status && r.status < 400

/-- The member `code` of a value, or else that of its member `error`. -/
def codeMember? (j : Json) : Option Json :=
  (j.get? "code").or ((j.get? "error").bind (·.get? "code"))

/-- The number that a member stands for, as a number or in a string. -/
def statusOf? : Json → Option Nat
  | .number n => n.toUnsigned?
  | .string s => Text.readNatBelow? UInt64.size s
  | _ => none

/-- The status in the body, if the body is JSON and has one. -/
def embeddedCode? (r : Response) : Option Nat := do
  let j ← Json.ofBytes? r.body
  let member ← codeMember? j
  let code ← statusOf? member
  if 100 ≤ code ∧ code ≤ 599 then some code else none

end Response

end Ingress.Downstream
