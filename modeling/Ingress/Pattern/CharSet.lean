import Ingress.Text.CodeRange

/-!
# Sets of characters

The sets that a pattern names between brackets: ranges in ascending order that neither meet nor
touch, so that equal sets are equal values.
-/

namespace Ingress.Pattern

open Text (CodeRange)

/-- A set of characters. -/
structure CharSet where
  ranges : List CodeRange
deriving DecidableEq

namespace CharSet

/-- Membership of a character. -/
def contains (s : CharSet) (c : Char) : Bool := CodeRange.anyHolds s.ranges c.toNat

/-- The set without characters. -/
def empty : CharSet := ⟨[]⟩

/-- The last code point. -/
def lastCode : Nat := 0x10FFFF

/-- The set of all characters. -/
def full : CharSet := ⟨[⟨0, lastCode⟩]⟩

/-- Ranges with one more among them, which swallows those that it meets or touches. -/
def insertRange (r : CodeRange) : List CodeRange → List CodeRange
  | [] => [r]
  | s :: rest =>
    if r.last + 1 < s.first then r :: s :: rest
    else if s.last + 1 < r.first then s :: insertRange r rest
    else insertRange ⟨min r.first s.first, max r.last s.last⟩ rest

/-- The set of the characters in some ranges. -/
def ofRanges (rs : List (Nat × Nat)) : CharSet :=
  ⟨rs.foldl (fun ranges r => insertRange ⟨r.1, r.2⟩ ranges) []⟩

/-- The characters from one to another. -/
def between (first last : Char) : CharSet := ⟨[⟨first.toNat, last.toNat⟩]⟩

/-- The set of one character. -/
def only (c : Char) : CharSet := between c c

/-- The characters of either set. -/
def union (a b : CharSet) : CharSet :=
  ⟨a.ranges.foldl (fun ranges r => insertRange r ranges) b.ranges⟩

/-- The ranges between ascending ranges, from a code point on. -/
def gaps (start : Nat) : List CodeRange → List CodeRange
  | [] => if start ≤ lastCode then [⟨start, lastCode⟩] else []
  | r :: rest =>
    if start < r.first then ⟨start, r.first - 1⟩ :: gaps (r.last + 1) rest
    else gaps (r.last + 1) rest

/-- All other characters. -/
def complement (s : CharSet) : CharSet := ⟨gaps 0 s.ranges⟩

/-- The characters of both sets. -/
def inter (a b : CharSet) : CharSet := (a.complement.union b.complement).complement

/-- The characters of the first set that are not in the second one. -/
def diff (a b : CharSet) : CharSet := a.inter b.complement

/-- The characters of exactly one of two sets. -/
def symmDiff (a b : CharSet) : CharSet := (a.diff b).union (b.diff a)

/-- A set with the other case of its ASCII letters. -/
def foldAscii (s : CharSet) : CharSet :=
  (List.range 26).foldl (fun t i =>
    let capital := Char.ofNat (0x41 + i)
    let small := Char.ofNat (0x61 + i)
    if s.contains capital || s.contains small then (t.union (only capital)).union (only small)
    else t) s

end CharSet

end Ingress.Pattern
