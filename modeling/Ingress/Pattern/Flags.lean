import Ingress.Text.Blank

/-!
# Flags of patterns

What a pattern can switch on and off for the rest of a group, and the blanks and comments that do
not count while it is laid out freely.
-/

namespace Ingress.Pattern

/-- One of the things that can be switched. -/
inductive Flag
  | ignoreCase
  /-- Lines have a start and an end of their own. -/
  | multiLine
  /-- A point stands for the end of a line too. -/
  | dotAll
  /-- Repetitions are short unless marked as long. -/
  | swapGreed
  /-- Characters are those of all scripts. -/
  | scripts
  /-- Carriage returns end lines too. -/
  | crlf
  /-- Blanks and comments do not count. -/
  | spaced
deriving DecidableEq

namespace Flag

/-- The flag of a letter. -/
def ofLetter? : Char → Option Flag
  | 'i' => some ignoreCase
  | 'm' => some multiLine
  | 's' => some dotAll
  | 'U' => some swapGreed
  | 'u' => some scripts
  | 'R' => some crlf
  | 'x' => some spaced
  | _ => none

end Flag

/-- The flags that are on. -/
structure Flags where
  on : List Flag
deriving DecidableEq

namespace Flags

/-- The flags that a pattern starts with. -/
def initial : Flags := ⟨[.scripts]⟩

/-- Whether a flag is on. -/
def has (fs : Flags) (f : Flag) : Bool := fs.on.contains f

/-- The flags after one was switched. -/
def switch (fs : Flags) (f : Flag) (on : Bool) : Flags :=
  let others := fs.on.filter (· ≠ f)
  ⟨if on then f :: others else others⟩

/-- Letters of flags up to the colon or the parenthesis that ends them. A minus switches off what
follows it; it stands at most once and not at the end, and no letter stands twice. Gives the flags,
and the characters from the end on. -/
def readLetters (fs : Flags) (seen : List Flag) (off : Bool) (dangling : Bool) :
    List Char → Option (Flags × Bool × List Char)
  | [] => none
  | c :: rest =>
    if c = ':' ∨ c = ')' then
      if dangling then none else some (fs, seen = [] && !off, c :: rest)
    else if c = '-' then
      if off then none else readLetters fs seen true true rest
    else match Flag.ofLetter? c with
      | some f =>
        if seen.contains f then none
        else readLetters (fs.switch f !off) (f :: seen) off false rest
      | none => none

/-- The characters after a comment, which ends with its line. -/
def skipComment : List Char → List Char
  | [] => []
  | c :: rest => if c = '\n' then rest else skipComment rest

theorem skipComment_length (cs : List Char) : (skipComment cs).length ≤ cs.length := by
  induction cs with
  | nil => simp [skipComment]
  | cons c rest ih =>
    unfold skipComment
    split
    · simp
    · simp only [List.length_cons]; omega

/-- The characters without blanks and comments in front. -/
def skipSpace (cs : List Char) : List Char :=
  match cs with
  | [] => []
  | c :: rest =>
    if Text.isBlank c then skipSpace rest
    else if c = '#' then skipSpace (skipComment rest)
    else c :: rest
termination_by cs.length
decreasing_by
  · simp
  · have := skipComment_length rest
    simp only [List.length_cons]
    omega

/-- The characters from the next one that counts. -/
def skip (fs : Flags) (cs : List Char) : List Char := if fs.has .spaced then skipSpace cs else cs

/-- The next character that counts, as it is told in advance: blanks, one mark of a comment and the
blanks behind it are passed by. -/
def peek (fs : Flags) (cs : List Char) : Option Char :=
  if fs.has .spaced then
    match cs.dropWhile Text.isBlank with
    | '#' :: rest => (rest.dropWhile Text.isBlank).head?.or cs.head?
    | [] => cs.head?
    | c :: _ => some c
  else cs.head?

end Flags

end Ingress.Pattern
