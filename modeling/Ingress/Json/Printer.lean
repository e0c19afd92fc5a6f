import Ingress.Json.Basic

/-!
# Written JSON

A value is written without blanks. In a string, the quote, the backslash and the control characters
are escaped, five of them by a letter and the others by their code; nothing else is.
-/

namespace Ingress.Json

/-- A hexadecimal digit in small letters. -/
def hexDigit (n : Nat) : Char :=
  if n < 10 then Char.ofNat ('0'.toNat + n) else Char.ofNat ('a'.toNat + (n - 10))

/-- A character as it stands in a string. -/
def escape (c : Char) : List Char :=
  if c = '"' then ['\\', '"']
  else if c = '\\' then ['\\', '\\']
  else if c = '\x08' then ['\\', 'b']
  else if c = '\x0c' then ['\\', 'f']
  else if c = '\n' then ['\\', 'n']
  else if c = '\r' then ['\\', 'r']
  else if c = '\t' then ['\\', 't']
  else if c.toNat < 0x20 then
    ['\\', 'u', '0', '0', hexDigit (c.toNat / 16), hexDigit (c.toNat % 16)]
  else [c]

/-- A string with its quotes. -/
def quote (s : String) : String :=
  String.ofList ('"' :: (s.toList.flatMap escape ++ ['"']))

mutual

/-- The text of a value. -/
def write : Json → String
  | .null => "null"
  | .bool true => "true"
  | .bool false => "false"
  | .number n => n.write
  | .string s => quote s
  | .array items => "[" ++ ",".intercalate (writeItems items) ++ "]"
  | .object members => "\x7b" ++ ",".intercalate (writeMembers members) ++ "\x7d"
termination_by structural j => j

/-- The texts of the items of an array. -/
def writeItems : List Json → List String
  | [] => []
  | j :: rest => j.write :: writeItems rest
termination_by structural js => js

/-- The texts of the members of an object. -/
def writeMembers : List (String × Json) → List String
  | [] => []
  | (k, j) :: rest => (quote k ++ ":" ++ j.write) :: writeMembers rest
termination_by structural ms => ms

end

end Ingress.Json
