import Ingress.Json.Decoder

/-!
# Kinds of failure

The nature of a failure, apart from the status that ends up on the wire.
-/

namespace Ingress.Failure

/-- The nature of a failure. -/
inductive Kind
  | inputValidation
  | unauthenticated
  | unauthorized
  | notFound
  | timeout
  | conflict
  | unprocessableEntity
  | rateLimited
  | downstreamFailure
  | internal
deriving DecidableEq

namespace Kind

/-- All kinds. -/
def all : List Kind :=
  [inputValidation, unauthenticated, unauthorized, notFound, timeout, conflict,
    unprocessableEntity, rateLimited, downstreamFailure, internal]

/-- The name of a kind. -/
def name : Kind → String
  | inputValidation => "input_validation"
  | unauthenticated => "unauthenticated"
  | unauthorized => "unauthorized"
  | notFound => "not_found"
  | timeout => "timeout"
  | conflict => "conflict"
  | unprocessableEntity => "unprocessable_entity"
  | rateLimited => "rate_limited"
  | downstreamFailure => "upstream_failure"
  | internal => "internal"

/-- The usual status of a kind; that of a failed call depends on the call. -/
def defaultStatus? : Kind → Option Nat
  | inputValidation => some 400
  | unauthenticated => some 401
  | unauthorized => some 403
  | notFound => some 404
  | timeout => some 408
  | conflict => some 409
  | unprocessableEntity => some 422
  | rateLimited => some 429
  | downstreamFailure => none
  | internal => some 500

/-- The kind that a status usually goes with. -/
def ofStatus (status : Nat) : Kind :=
  match status with
  | 400 => inputValidation
  | 401 => unauthenticated
  | 403 => unauthorized
  | 404 => notFound
  | 408 => timeout
  | 409 => conflict
  | 422 => unprocessableEntity
  | 429 => rateLimited
  | _ => internal

/-- Reads a kind from a value: its name, or an object whose only member has that name. -/
def ofJson (j : Json) : Except Json.Mismatch Kind :=
  let named (name : String) : Except Json.Mismatch Kind :=
    match all.find? fun k => k.name = name with
    | some k => .ok k
    | none => .error (.unknownVariant name (all.map Kind.name))
  match j with
  | .string s => named s
  | .object [(name, v)] => do
    let k ← named name
    if v.isNull then pure k else throw (.kind v.found "unit")
  | .object _ => .error (.value .record "map with a single key")
  | j => .error (.kind j.found "string or map")

end Kind

end Ingress.Failure
