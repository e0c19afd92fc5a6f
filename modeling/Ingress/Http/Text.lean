import Ingress.Text.Ascii
import Ingress.Text.Utf8

/-!
# Words of the HTTP protocol

Which texts are methods, which bytes are header values, and the path of a request target.
-/

namespace Ingress.Http

/-- A character of a protocol token. -/
def isTokenChar (c : Char) : Bool :=
  c.isAlphanum || "!#$%&'*+-.^_|~".toList.contains c || c == Char.ofNat 0x60

/-- A method is a token of at least one character. -/
def isMethod (s : String) : Bool := s ≠ "" && s.toList.all isTokenChar

/-- A byte that may stand in a header value. -/
def isValueByte (b : UInt8) : Bool := (32 ≤ b && b != 127) || b == 9

/-- A byte of a header value that shows, or a tab. -/
def isVisibleByte (b : UInt8) : Bool := (32 ≤ b && b < 127) || b == 9

/-- The bytes of a text as a header value, if they are one. -/
def headerValue? (s : String) : Option ByteArray :=
  let bytes := s.toUTF8
  if bytes.toList.all isValueByte then some bytes else none

/-- The text of a header value that consists of visible characters. -/
def visibleText? (value : ByteArray) : Option String :=
  if value.toList.all isVisibleByte then String.fromUTF8? value else none

/-- The path up to a query or a fragment. -/
private def pathOnly (cs : List Char) : List Char := cs.takeWhile fun c => c ≠ '?' ∧ c ≠ '#'

/-- What follows the mark after a scheme. -/
private def afterScheme? : List Char → Option (List Char)
  | ':' :: '/' :: '/' :: rest => some rest
  | _ :: rest => afterScheme? rest
  | [] => none

/-- The path of a request target: of a full address what follows the host, a slash if nothing does;
a lone host has none. -/
def targetPath (target : String) : String :=
  match target.toList with
  | '/' :: rest => String.ofList (pathOnly ('/' :: rest))
  | ['*'] => "*"
  | cs =>
    match afterScheme? cs with
    | some rest =>
      let path := pathOnly (rest.dropWhile fun c => c ≠ '/' ∧ c ≠ '?' ∧ c ≠ '#')
      if path = [] then "/" else String.ofList path
    | none => ""

end Ingress.Http
