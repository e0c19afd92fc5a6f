/-!
# ASCII letters and decimal numerals

Letter case of the protocol words (methods, header names, network codes, keywords of settings)
concerns ASCII letters only; every other character is kept. Numerals are runs of ASCII digits.
-/

namespace Ingress.Text

/-- The text with its ASCII capitals made small. -/
def lowerAscii (s : String) : String := s.map Char.toLower

/-- The text with its ASCII small letters made capital. -/
def upperAscii (s : String) : String := s.map Char.toUpper

/-- Two texts are the same word when they differ at most in the case of ASCII letters. -/
def sameWord (a b : String) : Bool := lowerAscii a == lowerAscii b

/-- The value of one decimal digit. -/
def digitValue (c : Char) : Nat := c.toNat - '0'.toNat

/-- The number that a run of decimal digits denotes. -/
def numeral (digits : List Char) : Nat :=
  digits.foldl (fun n c => 10 * n + digitValue c) 0

/-- Reads an unsigned number of at least one digit, with an optional plus sign in front. -/
def readNat? (s : String) : Option Nat :=
  let digits := match s.toList with
    | '+' :: rest => rest
    | all => all
  if digits ≠ [] ∧ digits.all Char.isDigit then some (numeral digits) else none

/-- Reads an unsigned number that is smaller than `bound`. -/
def readNatBelow? (bound : Nat) (s : String) : Option Nat :=
  (readNat? s).filter (· < bound)

/-- The value of a hexadecimal digit. -/
def hexValue? (c : Char) : Option Nat :=
  if c.isDigit then some (digitValue c)
  else if 'a' ≤ c ∧ c ≤ 'f' then some (c.toNat - 'a'.toNat + 10)
  else if 'A' ≤ c ∧ c ≤ 'F' then some (c.toNat - 'A'.toNat + 10)
  else none

/-- The digits of `n` in base ten, with zeros in front up to the given width. -/
def padded (width n : Nat) : String :=
  let digits := toString n
  String.ofList (List.replicate (width - digits.length) '0') ++ digits

/-- Texts joined by a separator. -/
def joined (separator : String) (parts : List String) : String :=
  separator.intercalate parts

end Ingress.Text
