import Ingress.Pattern.Basic
import Ingress.Pattern.Flags
import Ingress.Text.Ascii

/-!
# Escapes in patterns

What a backslash and the characters behind it stand for: a character, a class, or a condition on a
place.
-/

namespace Ingress.Pattern

/-- What an escape stands for. -/
inductive Escape
  | char (c : Char)
  /-- A character that is given as the value of a byte. -/
  | byte (c : Char)
  /-- The digits, blanks or word characters, or all others. -/
  | named (set : CharSet) (negated : Bool)
  | anchor (anchor : Anchor)

namespace Escape

/-- The ASCII digits. -/
def digits : CharSet := CharSet.between '0' '9'

/-- The ASCII blanks. -/
def blanks : CharSet := CharSet.ofRanges [(0x09, 0x0D), (0x20, 0x20)]

/-- The ASCII characters of words. -/
def wordCharacters : CharSet :=
  CharSet.ofRanges [(0x30, 0x39), (0x41, 0x5A), (0x5F, 0x5F), (0x61, 0x7A)]

/-- Reads a number of digits in base sixteen, and what does not count between and after them. -/
def readHex (fs : Flags) : Nat → Nat → List Char → Option (Nat × List Char)
  | 0, value, cs => some (value, cs)
  | n + 1, value, cs =>
    match cs with
    | [] => none
    | c :: rest =>
      match Text.hexValue? c with
      | some d => readHex fs n (16 * value + d) (fs.skip rest)
      | none => none

/-- The number of digits that follow a letter. -/
def hexLength? : Char → Option Nat
  | 'x' => some 2
  | 'u' => some 4
  | 'U' => some 8
  | _ => none

/-- The character that a letter stands for. -/
def control? : Char → Option Char
  | 'a' => some '\x07'
  | 'f' => some '\x0C'
  | 't' => some '\t'
  | 'n' => some '\n'
  | 'r' => some '\r'
  | 'v' => some '\x0B'
  | _ => none

/-- The class of a letter. A capital stands for all characters outside of it. -/
def named? : Char → Option (CharSet × Bool)
  | 'd' => some (digits, false)
  | 's' => some (blanks, false)
  | 'w' => some (wordCharacters, false)
  | 'D' => some (digits, true)
  | 'S' => some (blanks, true)
  | 'W' => some (wordCharacters, true)
  | _ => none

/-- The condition of a letter or an angle bracket. -/
def anchor? : Char → Option Anchor
  | 'A' => some .textStart
  | 'z' => some .textEnd
  | 'b' => some .wordEdge
  | 'B' => some .noWordEdge
  | '<' => some .wordStart
  | '>' => some .wordEnd
  | _ => none

/-- Whether a backslash lets a character stand for itself: it is ASCII, and neither a letter nor a
digit nor an angle bracket. -/
def isPlain (c : Char) : Bool :=
  c.toNat < 0x80 && !c.isAlphanum && c ≠ '<' && c ≠ '>'

/-- Reads what stands behind a backslash. -/
def read (fs : Flags) : List Char → Option (Escape × List Char)
  | [] => none
  | c :: rest =>
    match hexLength? c with
    | some n => do
      let (value, rest) ← readHex fs n 0 (fs.skip rest)
      if value.isValidChar then
        let glyph := Char.ofNat value
        some (if c = 'x' then byte glyph else char glyph, rest)
      else none
    | none =>
      match named? c, anchor? c, control? c with
      | some (set, negated), _, _ => some (named set negated, rest)
      | _, some a, _ => some (anchor a, rest)
      | _, _, some glyph => some (char glyph, rest)
      | _, _, _ => if isPlain c then some (char c, rest) else none

end Escape

end Ingress.Pattern
