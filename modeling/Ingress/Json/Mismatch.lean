import Ingress.Text.Quoted
import Ingress.Json.Reading

/-!
# Why a document does not fit

A well-formed document may still not fit the type that it is read as. The causes and their wording.
-/

namespace Ingress.Json

/-- What stands in the document where something else was wanted. -/
inductive Found
  | null
  | bool (value : Bool)
  | integer (value : Int)
  | float (value : Float)
  | text (value : String)
  | list
  | record
  | variant

/-- What a value is, for a message. -/
def found : Json → Found
  | .null => .null
  | .bool b => .bool b
  | .number (.int i) => .integer i
  | .number (.float x) => .float x
  | .string s => .text s
  | .array _ => .list
  | .object _ => .record

/-- Why a document does not fit. -/
inductive Mismatch
  | kind (found : Found) (expected : String)
  | value (found : Found) (expected : String)
  | length (found : Nat) (expected : String)
  | missing (field : String)
  | repeated (field : String)
  | unknownField (name : String) (known : List String)
  | unknownVariant (name : String) (known : List String)
  | other (message : String)

/-- Why a text is refused: it is no document, or one that does not fit. -/
inductive Refusal
  | malformed
  | unfit (why : Mismatch)

/-- The words that differ between document formats. -/
structure Wording where
  null : String
  float : Float → String

/-- The words for JSON documents. -/
def Wording.json : Wording := ⟨"null", Decimal.Layout.document.write⟩

/-- The description of what was found. -/
def Found.describe (w : Wording) : Found → String
  | .null => w.null
  | .bool b => "boolean `" ++ toString b ++ "`"
  | .integer i => "integer `" ++ toString i ++ "`"
  | .float x => "floating point `" ++ w.float x ++ "`"
  | .text s => "string " ++ Text.quoted s
  | .list => "sequence"
  | .record => "map"
  | .variant => "enum"

/-- A choice of names in words. -/
def choice (names : List String) : String :=
  match names.map fun n => "`" ++ n ++ "`" with
  | [] => ""
  | [a] => a
  | [a, b] => a ++ " or " ++ b
  | many => "one of " ++ Text.joined ", " many

/-- The sentence for a mismatch. -/
def Mismatch.message (w : Wording) : Mismatch → String
  | .kind found expected => "invalid type: " ++ found.describe w ++ ", expected " ++ expected
  | .value found expected => "invalid value: " ++ found.describe w ++ ", expected " ++ expected
  | .length n expected => "invalid length " ++ toString n ++ ", expected " ++ expected
  | .missing field => "missing field `" ++ field ++ "`"
  | .repeated field => "duplicate field `" ++ field ++ "`"
  | .unknownField name known =>
    "unknown field `" ++ name ++ "`, "
      ++ (if known.isEmpty then "there are no fields" else "expected " ++ choice known)
  | .unknownVariant name known =>
    "unknown variant `" ++ name ++ "`, "
      ++ (if known.isEmpty then "there are no variants" else "expected " ++ choice known)
  | .other message => message

end Ingress.Json
