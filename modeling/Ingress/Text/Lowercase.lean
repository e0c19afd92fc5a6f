import Ingress.Text.CaseTable

/-!
# Lower-casing

Full lower-casing of a text. All letters but two are mapped one by one: the dotted capital I becomes
two characters, and a capital sigma becomes the final form exactly at the end of a word. A word ends
where looking past ignorable characters finds a letter before and none after.
-/

namespace Ingress.Text

/-- A character that a word may hold without ending. -/
def isCaseIgnorable (c : Char) : Bool := CodeRange.anyHolds ignorableRanges c.toNat

/-- A letter that comes in capital and small form. -/
def isCased (c : Char) : Bool := CodeRange.anyHolds casedRanges c.toNat

/-- The run of capitals that a code point belongs to. -/
def caseRun? (n : Nat) : Option CaseRun :=
  smallRuns.find? fun r => r.first ≤ n && n ≤ r.last && (n - r.first) % r.step == 0

/-- The small form of one character out of its context. -/
def smallLetters (c : Char) : List Char :=
  if c = 'İ' then ['i', '\u0307']
  else match caseRun? c.toNat with
    | some r => [Char.ofNat (c.toNat + r.shift).toNat]
    | none => [c]

/-- The nearest character that is not ignorable is a letter. -/
def meetsLetter (cs : List Char) : Bool :=
  match cs.dropWhile isCaseIgnorable with
  | c :: _ => isCased c
  | [] => false

/-- Lower-cases the characters that follow `before`, which stands in reverse. -/
def lowerAfter (before : List Char) : List Char → List Char
  | [] => []
  | c :: rest =>
    let small :=
      if c = 'Σ' then [if meetsLetter before && !meetsLetter rest then 'ς' else 'σ']
      else smallLetters c
    small ++ lowerAfter (c :: before) rest

/-- The text in small letters. -/
def lower (s : String) : String := String.ofList (lowerAfter [] s.toList)

end Ingress.Text
