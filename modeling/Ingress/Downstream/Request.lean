import Ingress.Http.Headers

/-!
# Requests to other services

What is sent on every attempt of an outbound call, and whether the caller allows more than one.
-/

namespace Ingress.Downstream

/-- A request to another service. -/
structure Request where
  method : String
  url : String
  headers : Headers
  body : Option ByteArray
  /-- Whether another attempt may follow a failed one; if it is not said, the method decides. -/
  retryAllowed : Option Bool

namespace Request

/-- A request without headers and body. -/
def new (method url : String) : Request := ⟨method, url, [], none, none⟩

/-- Makes a value the only one of a header. -/
def withHeader (name : String) (value : ByteArray) (r : Request) : Request :=
  { r with headers := r.headers.insert name value }

/-- Sets the body. -/
def withBody (body : ByteArray) (r : Request) : Request := { r with body := some body }

/-- Sets a JSON text as the body. -/
def withJson (text : String) (r : Request) : Request :=
  (r.withBody text.toUTF8).withHeader Headers.contentType "application/json".toUTF8

/-- Says whether another attempt may follow a failed one. -/
def allowRetry (allowed : Bool) (r : Request) : Request := { r with retryAllowed := some allowed }

end Request

end Ingress.Downstream
