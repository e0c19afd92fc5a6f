import Ingress.Text.Ascii

/-!
# Names in ASCII

A label of a host name with characters beyond ASCII is written in ASCII: first its ASCII characters,
then numbers that say which other character is put where. A number is written with digits of base
thirty-six, the least one first; the last digit of a number is below a threshold that depends on its
place and on the numbers before.
-/

namespace Ingress.Http.Host.Punycode

/-- The value of a digit: the small letters, then the decimal digits. -/
def digit? (c : Char) : Option Nat :=
  if 'a' ≤ c ∧ c ≤ 'z' then some (c.toNat - 'a'.toNat)
  else if c.isDigit then some (Text.digitValue c + 26)
  else none

/-- The threshold of the digit at a place, where places are thirty-six apart. -/
def threshold (bias place : Nat) : Nat :=
  if place ≤ bias then 1 else if bias + 26 ≤ place then 26 else place - bias

/-- Scales a number down until it is small, and counts the places. -/
def scale (n places : Nat) : Nat × Nat :=
  if 455 < n then scale (n / 35) (places + 36) else (n, places)
termination_by n
decreasing_by omega

/-- The bias after a number, with the characters that there are then. -/
def adapt (n count : Nat) (first : Bool) : Nat :=
  let n := if first then n / 700 else n / 2
  let (n, places) := scale (n + n / count) 0
  places + 36 * n / (n + 38)

/-- Reads one number, the digit at a place with a weight first. -/
def readNumber (bias : Nat) : (place weight sum : Nat) → List Char → Option (Nat × List Char)
  | _, _, _, [] => none
  | place, weight, sum, c :: rest => do
    let d ← digit? c
    let sum := sum + d * weight
    let t := threshold bias place
    if d < t then some (sum, rest) else readNumber bias (place + 36) (weight * (36 - t)) sum rest

/-- A number takes at least one digit. -/
theorem readNumber_length {bias : Nat} {rest : List Char} {place weight sum : Nat}
    {r : Nat × List Char} (h : readNumber bias place weight sum rest = some r) :
    r.2.length < rest.length := by
  induction rest generalizing place weight sum with
  | nil => simp [readNumber] at h
  | cons c rest ih =>
    simp only [readNumber, Option.bind_eq_bind, Option.bind_eq_some_iff] at h
    obtain ⟨d, _, h⟩ := h
    split at h
    · cases h
      simp
    · have := ih h
      simp only [List.length_cons]
      omega

/-- Puts characters into a label, one for each number: the numbers count on through the places of
the label, and after each round through them to the next character. -/
def insertAll (bias code place : Nat) (label rest : List Char) : Option (List Char) :=
  if rest = [] then some label
  else
    match _h : readNumber bias 36 1 0 rest with
    | none => none
    | some (n, rest') =>
      let count := label.length + 1
      let code := code + (place + n) / count
      let at_ := (place + n) % count
      if code.isValidChar then
        insertAll (adapt n count (place = 0)) code (at_ + 1)
          (label.take at_ ++ Char.ofNat code :: label.drop at_) rest'
      else none
termination_by rest.length
decreasing_by exact readNumber_length (by assumption)

/-- The label that ASCII characters stand for. The last minus among them, unless it is the first
character, ends the part that stands for itself. -/
def decode? (cs : List Char) : Option (List Char) :=
  let numbers := (cs.reverse.takeWhile (· ≠ '-')).reverse
  let front := cs.take (cs.length - numbers.length)
  match front with
  | ['-'] | [] => insertAll 72 128 0 [] cs
  | _ => if front.all (·.toNat < 0x80) then insertAll 72 128 0 front.dropLast numbers else none

end Ingress.Http.Host.Punycode
