import Ingress.Json.Reading

/-!
# Numbers and dates of TOML

A number or a date is a run of characters that is taken as a whole. Integers have 64 bits and a
sign; a floating point number must not be too large.
-/

namespace Ingress.Toml

open Json

/-- A character of a number, a date or a bare word. -/
def isScalarChar (c : Char) : Bool :=
  c.isAlphanum || c = '_' || c = '+' || c = '-' || c = '.' || c = ':'

/-- Digits without the underscores that part them; an underscore stands between two digits only. -/
def ungrouped? (isDigit : Char → Bool) : List Char → Option (List Char)
  | [] => none
  | [c] => if isDigit c then some [c] else none
  | c :: '_' :: rest =>
    if isDigit c then (ungrouped? isDigit rest).map (c :: ·) else none
  | c :: rest => if isDigit c then (ungrouped? isDigit rest).map (c :: ·) else none

/-- The largest integer. -/
def maxInt : Int := 0x7fffffffffffffff

/-- An integer that is not too large. -/
def integer? (n : Int) : Option Reading :=
  if -maxInt - 1 ≤ n ∧ n ≤ maxInt then some (.number (.int n)) else none

/-- An integer in another base. -/
def based? (base : Nat) (digits : List Char) : Option Reading := do
  let isDigit (c : Char) : Bool := (Text.hexValue? c).any (· < base)
  let digits ← ungrouped? isDigit digits
  let values ← digits.mapM Text.hexValue?
  integer? (values.foldl (fun n d => base * n + d) 0 : Nat)

/-- A digit of a decimal number or an underscore. -/
def isGroupChar (c : Char) : Bool := c.isDigit || c = '_'

/-- An exponent, with its letter and sign, as it is read everywhere. -/
def exponent? : List Char → Option (List Char)
  | [] => some []
  | c :: rest =>
    if c = 'e' ∨ c = 'E' then
      match rest with
      | '-' :: digits => (ungrouped? Char.isDigit digits).map fun ds => 'e' :: '-' :: ds
      | '+' :: digits => (ungrouped? Char.isDigit digits).map fun ds => 'e' :: ds
      | digits => (ungrouped? Char.isDigit digits).map fun ds => 'e' :: ds
    else none

/-- A floating point number; infinity is one only where it is written as such. -/
def float? (negative : Bool) (text : List Char) : Option Reading := do
  let x ← Decimal.read? (String.ofList ((if negative then ['-'] else []) ++ text))
  if x == 1.0 / 0.0 then none else some (.number (.float x))

/-- A decimal number after its sign. -/
def decimal? (negative : Bool) (cs : List Char) : Option Reading := do
  let whole ← ungrouped? Char.isDigit (cs.takeWhile isGroupChar)
  if whole.length ≠ 1 ∧ whole.head? = some '0' then none
  else
    match cs.dropWhile isGroupChar with
    | [] =>
      let n : Int := Text.numeral whole
      integer? (if negative then -n else n)
    | '.' :: rest => do
      let fraction ← ungrouped? Char.isDigit (rest.takeWhile isGroupChar)
      let exponent ← exponent? (rest.dropWhile isGroupChar)
      float? negative (whole ++ '.' :: fraction ++ exponent)
    | rest => do
      let exponent ← exponent? rest
      float? negative (whole ++ exponent)

/-- A number of any form. -/
def number? (cs : List Char) : Option Reading :=
  match cs with
  | '0' :: 'x' :: digits => based? 16 digits
  | '0' :: 'o' :: digits => based? 8 digits
  | '0' :: 'b' :: digits => based? 2 digits
  | cs =>
    let (negative, rest) := Decimal.splitSign cs
    if rest = "inf".toList then
      some (.number (.float (if negative then -(1.0 / 0.0) else 1.0 / 0.0)))
    else if rest = "nan".toList then some (.number (.float (0.0 / 0.0)))
    else decimal? negative rest

/-- Two digits from a least to a largest number, and the characters after them. -/
def pair? (least most : Nat) : List Char → Option (Nat × List Char)
  | a :: b :: rest =>
    let n := Text.numeral [a, b]
    if a.isDigit ∧ b.isDigit ∧ least ≤ n ∧ n ≤ most then some (n, rest) else none
  | _ => none

/-- The days of a month. -/
def monthLength (year month : Nat) : Nat :=
  if month = 2 then
    if year % 4 = 0 ∧ (year % 100 ≠ 0 ∨ year % 400 = 0) then 29 else 28
  else if month = 4 ∨ month = 6 ∨ month = 9 ∨ month = 11 then 30
  else 31

/-- The characters after a date. -/
def date? (cs : List Char) : Option (List Char) := do
  let (century, rest) ← pair? 0 99 cs
  match ← pair? 0 99 rest with
  | (years, '-' :: rest) =>
    match ← pair? 1 12 rest with
    | (month, '-' :: rest) =>
      let (day, rest) ← pair? 1 31 rest
      if day ≤ monthLength (century * 100 + years) month then some rest else none
    | _ => none
  | _ => none

/-- The characters after a time of day. -/
def time? (cs : List Char) : Option (List Char) := do
  match ← pair? 0 23 cs with
  | (_, ':' :: rest) =>
    match ← pair? 0 59 rest with
    | (_, ':' :: rest) =>
      match ← pair? 0 60 rest with
      | (_, '.' :: rest) =>
        if rest.takeWhile Char.isDigit = [] then none else some (rest.dropWhile Char.isDigit)
      | (_, rest) => some rest
    | _ => none
  | _ => none

/-- Whether the characters are an offset from universal time, or nothing. -/
def isOffset : List Char → Bool
  | [] => true
  | ['Z'] | ['z'] => true
  | c :: rest =>
    (c = '+' || c = '-') &&
      match pair? 0 23 rest with
      | some (_, ':' :: rest) => (pair? 0 59 rest).any fun p => p.2 = []
      | _ => false

/-- Whether the characters are a date, a time of day, or both. -/
def isMoment (cs : List Char) : Bool :=
  match date? cs with
  | some [] => true
  | some (c :: rest) => (c = 'T' || c = 't' || c = ' ') && (time? rest).any isOffset
  | none => time? cs = some []

/-- The characters of a scalar and those after it. A date and a time may stand apart by one blank.
-/
def scalarRun (cs : List Char) : List Char × List Char :=
  let first := cs.takeWhile isScalarChar
  let rest := cs.dropWhile isScalarChar
  match date? first, rest with
  | some [], ' ' :: c :: more =>
    if c.isDigit then
      (first ++ ' ' :: (c :: more).takeWhile isScalarChar, (c :: more).dropWhile isScalarChar)
    else (first, rest)
  | _, _ => (first, rest)

/-- The value of a run of characters. -/
def scalar (cs : List Char) : Option Reading :=
  if cs = "true".toList then some (.bool true)
  else if cs = "false".toList then some (.bool false)
  else if isMoment cs then some .foreign
  else number? cs

end Ingress.Toml
