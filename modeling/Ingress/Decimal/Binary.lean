/-!
# Binary floating point numbers as fractions

A finite number is a sign and a fraction `significand · 2 ^ exponent`. The exact arithmetic of
reading and writing decimals is done on that fraction.
-/

namespace Ingress.Decimal

/-- What a floating point number stands for. -/
inductive Meaning
  | nan
  | infinite (negative : Bool)
  | finite (negative : Bool) (significand : Nat) (exponent : Int)
deriving DecidableEq, Repr

/-- The sign of zero is kept; the significand of a normal number has 53 bits. -/
def Meaning.ofFloat (x : Float) : Meaning :=
  let bits : Nat := x.toBits.toNat
  let negative := bits >>> 63 == 1
  let biased : Nat := bits >>> 52 % 2048
  let fraction : Nat := bits % (1 <<< 52)
  if biased == 2047 then
    if fraction == 0 then .infinite negative else .nan
  else if biased == 0 then .finite negative fraction (-1074)
  else .finite negative (fraction + 1 <<< 52) ((biased : Int) - 1075)

/-- A number other than infinity and `NaN`. -/
def isFinite (x : Float) : Bool :=
  match Meaning.ofFloat x with
  | .finite .. => true
  | _ => false

/-- A quotient rounded to the nearest whole number, halves away from zero. -/
def roundHalfUp (numerator denominator : Nat) : Nat :=
  (2 * numerator + denominator) / (2 * denominator)

/-- The nearest whole number to a non-negative finite number, halves away from zero. -/
def roundToNat (x : Float) : Nat :=
  match Meaning.ofFloat x with
  | .finite false significand exponent =>
    if 0 ≤ exponent then significand <<< exponent.toNat
    else roundHalfUp significand (1 <<< (-exponent).toNat)
  | _ => 0

end Ingress.Decimal
