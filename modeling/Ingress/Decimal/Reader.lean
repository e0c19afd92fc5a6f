import Ingress.Text.Ascii

/-!
# Reading a decimal

A decimal numeral stands for the floating point number nearest to it, ties to the even significand.
-/

namespace Ingress.Decimal

/-- The floating point number nearest to `digits · 10 ^ exponent`. A numeral out of all bounds is
settled without computing its power of ten. -/
def nearestFloat (digits : Nat) (exponent : Int) : Float :=
  let leading : Int := exponent + (toString digits).length
  if digits = 0 ∨ leading < -400 then 0.0
  else if 400 < leading then 1.0 / 0.0
  else if 0 ≤ exponent then Float.ofScientific digits false exponent.toNat
  else Float.ofScientific digits true (-exponent).toNat

/-- Splits a sign from the characters after it; the first part is true for a minus. -/
def splitSign : List Char → Bool × List Char
  | '-' :: rest => (true, rest)
  | '+' :: rest => (false, rest)
  | cs => (false, cs)

/-- The exponent of a numeral: a sign and at least one digit, or nothing at all. -/
private def exponentOf? : List Char → Option Int
  | [] => some 0
  | c :: rest =>
    if c = 'e' ∨ c = 'E' then
      let (negative, digits) := splitSign rest
      if digits ≠ [] ∧ digits.all Char.isDigit then
        let n : Int := Text.numeral digits
        some (if negative then -n else n)
      else none
    else none

/-- The value of an unsigned numeral: digits with an optional point among or beside them, then an
optional exponent. -/
def readUnsigned? (cs : List Char) : Option Float :=
  let whole := cs.takeWhile Char.isDigit
  let rest := cs.dropWhile Char.isDigit
  let (fraction, rest) := match rest with
    | '.' :: after => (after.takeWhile Char.isDigit, after.dropWhile Char.isDigit)
    | _ => ([], rest)
  if whole = [] ∧ fraction = [] then none
  else (exponentOf? rest).map fun e =>
    nearestFloat (Text.numeral (whole ++ fraction)) (e - fraction.length)

/-- Reads a floating point number, the words for infinity and `NaN` included. -/
def read? (s : String) : Option Float :=
  let (negative, cs) := splitSign s.toList
  let word := Text.lowerAscii (String.ofList cs)
  let magnitude :=
    if word = "inf" ∨ word = "infinity" then some (1.0 / 0.0)
    else if word = "nan" then some (0.0 / 0.0)
    else readUnsigned? cs
  magnitude.map fun x => if negative then -x else x

end Ingress.Decimal
