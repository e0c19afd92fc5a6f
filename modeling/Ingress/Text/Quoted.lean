import Ingress.Text.ShapeTable

/-!
# Quoted text in messages

A message shows a text between quotes in which everything that does not show by itself is escaped.
-/

namespace Ingress.Text

/-- The digits of a number in base sixteen, small letters. -/
def hexDigits (n : Nat) : List Char := Nat.toDigits 16 n

/-- A character between quotes. -/
def quotedChar (c : Char) : List Char :=
  if c = '\x00' then ['\\', '0']
  else if c = '\t' then ['\\', 't']
  else if c = '\n' then ['\\', 'n']
  else if c = '\r' then ['\\', 'r']
  else if c = '"' then ['\\', '"']
  else if c = '\\' then ['\\', '\\']
  else if isShapeless c then
    ['\\', 'u', '\x7b'] ++ hexDigits c.toNat ++ ['\x7d']
  else [c]

/-- A text as a message quotes it. -/
def quoted (s : String) : String :=
  String.ofList ('"' :: (s.toList.flatMap quotedChar ++ ['"']))

end Ingress.Text
