import Ingress.Decimal.Shortest

/-!
# Decimal layouts

How a floating point number is written out. The digits are the shortest ones; a layout decides where
positional writing ends, how an exponent looks and how a whole number is marked.
-/

namespace Ingress.Decimal

/-- The decisions of one written form. -/
structure Layout where
  /-- The exponents of the leading digit that are written without an exponent mark. -/
  positional : Int → Bool
  /-- Whether a whole number in positional form ends in `.0`. -/
  pointOnWhole : Bool
  /-- Of two equally near decimals, whether the upper one is taken in place of the given lower one.
  -/
  tieUp : Nat → Bool
  nan : String
  /-- The text of infinity; the argument is true for the negative one. -/
  infinity : Bool → String

/-- Whole numbers without a point and never an exponent. -/
def Layout.plain : Layout where
  positional := fun _ => true
  pointOnWhole := false
  tieUp := fun _ => true
  nan := "NaN"
  infinity := fun negative => if negative then "-inf" else "inf"

/-- Sixteen digits before the point and five zeros after it; beyond that, an exponent with its sign
when it is positive too. Numbers of a document are finite. -/
def Layout.document : Layout where
  positional := fun leading => -5 ≤ leading && leading ≤ 15
  pointOnWhole := true
  tieUp := fun below => below % 2 = 1
  nan := "null"
  infinity := fun _ => "null"

/-- As `plain`, with the point that tells a fraction from an integer. -/
def Layout.pointed : Layout := { Layout.plain with pointOnWhole := true }

namespace Layout

/-- Writes a non-negative decimal without an exponent mark. -/
def writePositional (layout : Layout) (d : Digits) : String :=
  let text := toString d.digits
  if 0 ≤ d.exponent then
    text ++ String.ofList (List.replicate d.exponent.toNat '0')
      ++ (if layout.pointOnWhole then ".0" else "")
  else
    let places := (-d.exponent).toNat
    let cs := text.toList
    let whole := cs.take (cs.length - places)
    let missing := List.replicate (places - cs.length) '0'
    String.ofList ((if whole = [] then ['0'] else whole) ++ '.' :: missing
      ++ cs.drop (cs.length - places))

/-- Writes a positive decimal with one digit before the point and an exponent. -/
def writeScientific (d : Digits) (leading : Int) : String :=
  let cs := (toString d.digits).toList
  let fraction := if cs.length ≤ 1 then [] else '.' :: cs.drop 1
  String.ofList (cs.take 1 ++ fraction) ++ "e" ++ (if 0 ≤ leading then "+" else "")
    ++ toString leading

/-- Writes any floating point number. -/
def write (layout : Layout) (x : Float) : String :=
  match Meaning.ofFloat x with
  | .nan => layout.nan
  | .infinite negative => layout.infinity negative
  | .finite negative significand exponent =>
    let d := shortest significand exponent layout.tieUp
    let leading : Int := d.exponent + (toString d.digits).length - 1
    (if negative then "-" else "") ++
      if layout.positional leading then layout.writePositional d else writeScientific d leading

end Layout

end Ingress.Decimal
