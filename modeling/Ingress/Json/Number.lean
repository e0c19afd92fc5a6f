import Ingress.Decimal.Reader
import Ingress.Decimal.Layout

/-!
# Numbers of a document

An integer that fits 64 bits, signed or unsigned, stays exact; every other number is floating point.
-/

namespace Ingress.Json

/-- A number of a document. -/
inductive Number
  | int (value : Int)
  | float (value : Float)

namespace Number

/-- The largest unsigned integer. -/
def maxUnsigned : Nat := UInt64.size - 1

/-- The largest signed integer. -/
def maxSigned : Nat := 0x7fffffffffffffff

/-- The value as a signed 64-bit integer. -/
def toSigned? : Number → Option Int
  | .int i => if -maxSigned - 1 ≤ i ∧ i ≤ maxSigned then some i else none
  | .float _ => none

/-- The value as an unsigned 64-bit integer. -/
def toUnsigned? : Number → Option Nat
  | .int i => if 0 ≤ i then some i.toNat else none
  | .float _ => none

/-- The floating point number nearest to the value. -/
def toFloat : Number → Float
  | .int i => Float.ofInt i
  | .float x => x

/-- The number as it is written in a document. -/
def write : Number → String
  | .int i => toString i
  | .float x => Decimal.Layout.document.write x

end Number

/-- The parts of a number as it stands in a text. -/
structure Literal where
  negative : Bool
  whole : List Char
  fraction : List Char
  /-- The sign, true for a minus, and the digits of the exponent. -/
  exponent : Option (Bool × List Char)

namespace Literal

/-- Takes digits as long as the number they form fits 64 bits; the rest is left. -/
def takeFitting (n : Nat) : List Char → Nat × List Char
  | [] => (n, [])
  | c :: rest =>
    let next := 10 * n + Text.digitValue c
    if next ≤ Number.maxUnsigned then takeFitting next rest else (n, c :: rest)

/-- Divides by powers of ten as large as a floating point number can hold. Four rounds reach zero
from any significand. -/
private def divideDown : Nat → Float → Int → Float
  | 0, _, _ => 0.0
  | rounds + 1, f, e =>
    if -308 ≤ e then f / Float.ofScientific 1 false (-e).toNat
    else if f == 0.0 then f
    else divideDown rounds (f / Float.ofScientific 1 false 308) (e + 308)

/-- The significand, rounded, times a power of ten, rounded again; `none` past the largest number.
-/
def scaled? (significand : Nat) (exponent : Int) : Option Float :=
  let f := Float.ofNat significand
  if exponent < 0 then some (divideDown 4 f exponent)
  else if exponent ≤ 308 then
    let product := f * Float.ofScientific 1 false exponent.toNat
    if Decimal.isFinite product then some product else none
  else if significand = 0 then some f
  else none

/-- The largest exponent that is computed with. -/
def maxExponent : Nat := 0x7fffffff

/-- The floating point value of a literal: its first digits, as many as fit 64 bits, times the power
of ten that the other digits and the exponent make; `none` past the largest number. -/
def toFloat? (l : Literal) : Option Float :=
  let (n, dropped) := takeFitting 0 l.whole
  let (significand, ignored) := takeFitting n l.fraction
  let point : Int := (dropped.length : Int) - (l.fraction.length - ignored.length : Nat)
  let magnitude := match l.exponent with
    | none => scaled? significand point
    | some (negative, digits) =>
      let e := Text.numeral digits
      if e ≤ maxExponent then scaled? significand (if negative then point - e else point + e)
      else if significand = 0 ∨ negative then some 0.0
      else none
  magnitude.map fun x => if l.negative then -x else x

/-- The number that a literal denotes: minus zero and all that does not fit 64 bits are floating
point. -/
def toNumber? (l : Literal) : Option Number :=
  let n := Text.numeral l.whole
  if l.fraction = [] ∧ l.exponent = none then
    if l.negative then
      if n ≠ 0 ∧ n ≤ Number.maxSigned + 1 then some (.int (-n)) else l.toFloat?.map .float
    else if n ≤ Number.maxUnsigned then some (.int n) else l.toFloat?.map .float
  else l.toFloat?.map .float

end Literal

end Ingress.Json
