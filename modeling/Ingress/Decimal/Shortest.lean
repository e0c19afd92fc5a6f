import Ingress.Decimal.Binary

/-!
# The fewest digits that read back

A decimal reads back as a floating point number when it lies in the interval of reals that round to
it. The shortest decimal is sought on the grids of one, two, … significant digits; on each grid only
the two neighbours of the number can lie in the interval.
-/

namespace Ingress.Decimal

/-- The decimal `digits · 10 ^ exponent`. -/
structure Digits where
  digits : Nat
  exponent : Int
deriving DecidableEq, Repr

/-- A positive real given by its quotient. -/
structure Quotient where
  numerator : Nat
  denominator : Nat

namespace Quotient

/-- The product of a quotient and a power of ten. -/
def scale (q : Quotient) (power : Int) : Quotient :=
  if 0 ≤ power then ⟨q.numerator * Nat.pow 10 power.toNat, q.denominator⟩
  else ⟨q.numerator, q.denominator * Nat.pow 10 (-power).toNat⟩

/-- The largest whole number that is not above the quotient. -/
def floor (q : Quotient) : Nat := q.numerator / q.denominator

/-- The exponent of the leading decimal digit of a quotient that is not below `10 ^ (-400)`. -/
def leadingExponent (q : Quotient) : Int :=
  (Nat.repr (q.scale 400).floor).length - 401

/-- The order of a quotient and a whole number. -/
def compareNat (q : Quotient) (n : Nat) : Ordering :=
  compare q.numerator (n * q.denominator)

end Quotient

/-- The reals that round to one floating point number, with the number itself. -/
structure Interval where
  low : Quotient
  middle : Quotient
  high : Quotient
  closed : Bool

namespace Interval

/-- The reals that round to `significand · 2 ^ exponent`: the lower gap is half as wide where the
binary exponent changes, and the ends belong to the even significand. -/
def around (significand : Nat) (exponent : Int) : Interval :=
  let lowGap := if significand = 1 <<< 52 ∧ exponent ≠ -1074 then 1 else 2
  let at4 (n : Nat) : Quotient :=
    if 0 ≤ exponent then ⟨n <<< exponent.toNat, 4⟩ else ⟨n, 4 <<< (-exponent).toNat⟩
  ⟨at4 (4 * significand - lowGap), at4 (4 * significand), at4 (4 * significand + 2),
    significand % 2 = 0⟩

/-- The interval in units of `10 ^ (-power)`. -/
def scale (i : Interval) (power : Int) : Interval :=
  ⟨i.low.scale power, i.middle.scale power, i.high.scale power, i.closed⟩

/-- Membership of a whole number. -/
def holds (i : Interval) (n : Nat) : Bool :=
  let low := i.low.compareNat n
  let high := i.high.compareNat n
  (low == .lt && high == .gt) || (i.closed && (low == .eq || high == .eq))

/-- The nearest whole number that the interval holds, if any; `tieUp` decides between two equally
near ones. -/
def nearest? (i : Interval) (tieUp : Nat → Bool) : Option Nat :=
  let below := i.middle.floor
  let above := below + 1
  match i.holds below && below ≠ 0, i.holds above with
  | false, false => none
  | true, false => some below
  | false, true => some above
  | true, true =>
    match compare (2 * i.middle.numerator) ((below + above) * i.middle.denominator) with
    | .lt => some below
    | .gt => some above
    | .eq => some (if tieUp below then above else below)

end Interval

/-- Drops the zeros at the end of the digits. -/
def Digits.trimZeros (fuel : Nat) (d : Digits) : Digits :=
  match fuel with
  | 0 => d
  | fuel + 1 =>
    if d.digits ≠ 0 ∧ d.digits % 10 = 0 then trimZeros fuel ⟨d.digits / 10, d.exponent + 1⟩ else d

/-- Tries the grids of `count`, `count + 1`, … digits, `grids` of them. -/
private def searchGrids (i : Interval) (leading : Int) (tieUp : Nat → Bool) :
    Nat → Nat → Option Digits
  | 0, _ => none
  | grids + 1, count =>
    let power : Int := (count : Int) - 1 - leading
    match (i.scale power).nearest? tieUp with
    | some n => some ⟨n, -power⟩
    | none => searchGrids i leading tieUp grids (count + 1)

/-- The shortest decimal that rounds to `significand · 2 ^ exponent`, and of those the nearest. -/
def shortest (significand : Nat) (exponent : Int) (tieUp : Nat → Bool) : Digits :=
  if significand = 0 then ⟨0, 0⟩
  else
    let i := Interval.around significand exponent
    match searchGrids i i.middle.leadingExponent tieUp 17 1 with
    | some d => d.trimZeros 20
    | none => ⟨0, 0⟩

end Ingress.Decimal
