import Ingress.Json.Decoder

/-!
# Caller identities

Who sent a request, as an authentication in front of the pipeline found out.
-/

namespace Ingress

/-- An authenticated user. -/
structure Identity where
  userId : String
  roles : List String

namespace Identity

/-- How a user appears in logs; never a credential. -/
def logId (i : Identity) : String := "user:" ++ i.userId

/-- Whether the user has a role. -/
def hasRole (role : String) (i : Identity) : Bool := i.roles.contains role

/-- The identity as JSON. -/
def toJson (i : Identity) : Json :=
  .object [("user_id", .string i.userId), ("roles", .array (i.roles.map .string))]

open Json Json.Decoder in
/-- The fields of a written identity. -/
def shape : Shape Reading where
  title := "struct UserIdentity"
  fields := [⟨"user_id", fits text, false⟩, ⟨"roles", fits (list text), true⟩]
  strict := false
  surplus := .malformed

open Json Json.Decoder in
/-- Reads a written identity; without roles there are none. -/
def decode : Decoder Identity := fun r => do
  let fs ← shape.decode r
  let userId ← member text "user_id" fs
  let roles ← memberD (list text) "roles" [] fs
  pure ⟨userId, roles⟩

end Identity

end Ingress
