import Ingress.Pattern.Escape

/-!
# Sets in brackets

The sets that patterns write in brackets: characters, ranges and sets within, with operations
between them. What has been opened is kept in a stack. Every set knows how deeply it is nested.
-/

namespace Ingress.Pattern

/-- What can be done with two sets. -/
inductive SetOp
  | inter
  | diff
  | symmDiff

/-- The set that an operation makes of two. -/
def SetOp.apply : SetOp → CharSet → CharSet → CharSet
  | inter => CharSet.inter
  | diff => CharSet.diff
  | symmDiff => CharSet.symmDiff

/-- A set as far as it has been read. -/
structure Union where
  set : CharSet
  /-- The number of its items. -/
  count : Nat
  /-- The depth of its deepest item. -/
  depth : Nat

namespace Union

/-- A set of which nothing has been read. -/
def empty : Union := ⟨CharSet.empty, 0, 0⟩

/-- The set with one more item. -/
def add (u : Union) (s : CharSet) (depth : Nat) : Union :=
  ⟨u.set.union s, u.count + 1, max u.depth depth⟩

/-- The depth of the whole set: several items lie one deeper than one. -/
def wholeDepth (u : Union) : Nat := if u.count ≤ 1 then u.depth else u.depth + 1

end Union

namespace Bracket

/-- Something that has been opened: a bracket within an outer set, or an operation with its left
side. -/
inductive Opened
  | bracket (negated : Bool) (outer : Union)
  | op (op : SetOp) (left : CharSet) (depth : Nat)

/-- The sets with a name: those of ASCII that are in common use. -/
def named : List (String × List (Nat × Nat)) := [
  ("alnum", [(0x30, 0x39), (0x41, 0x5A), (0x61, 0x7A)]), ("alpha", [(0x41, 0x5A), (0x61, 0x7A)]),
  ("ascii", [(0, 0x7F)]), ("blank", [(0x09, 0x09), (0x20, 0x20)]),
  ("cntrl", [(0, 0x1F), (0x7F, 0x7F)]), ("digit", [(0x30, 0x39)]), ("graph", [(0x21, 0x7E)]),
  ("lower", [(0x61, 0x7A)]), ("print", [(0x20, 0x7E)]),
  ("punct", [(0x21, 0x2F), (0x3A, 0x40), (0x5B, 0x60), (0x7B, 0x7E)]),
  ("space", [(0x09, 0x0D), (0x20, 0x20)]), ("upper", [(0x41, 0x5A)]),
  ("word", [(0x30, 0x39), (0x41, 0x5A), (0x5F, 0x5F), (0x61, 0x7A)]),
  ("xdigit", [(0x30, 0x39), (0x41, 0x46), (0x61, 0x66)])]

/-- Reads the name of a set, with its colons and its bracket, behind the bracket that opens it.
Gives the set, and whether all other characters are meant. -/
def readNamed? (cs : List Char) : Option (CharSet × Bool × List Char) :=
  match cs with
  | ':' :: rest =>
    let (negated, rest) := match rest with
      | '^' :: more => (true, more)
      | _ => (false, rest)
    let name := String.ofList (rest.takeWhile (· ≠ ':'))
    match rest.dropWhile (· ≠ ':') with
    | ':' :: ']' :: after =>
      (named.find? (·.1 = name)).map fun entry => (CharSet.ofRanges entry.2, negated, after)
    | _ => none
  | _ => none

/-- All other characters, where characters are those of all scripts. Among bytes alone the others
are not characters. -/
def negate (fs : Flags) (negated : Bool) (s : CharSet) : Option CharSet :=
  if !negated then some s
  else if fs.has .scripts then some s.complement
  else none

/-- A set with the other case of its letters, if case does not count. -/
def fold (fs : Flags) (s : CharSet) : CharSet := if fs.has .ignoreCase then s.foldAscii else s

/-- One end of a range, or an item of its own. -/
inductive Item
  | char (c : Char)
  | set (s : CharSet)

/-- Reads one item. Among bytes it has to be ASCII. -/
def readItem (fs : Flags) : List Char → Option (Item × List Char)
  | [] => none
  | c :: rest => do
    let (escape, rest) ← if c = '\\' then Escape.read fs rest else some (.char c, rest)
    match escape with
    | .char c | .byte c =>
      if fs.has .scripts ∨ c.toNat < 0x80 then some (.char c, rest) else none
    | .named s negated =>
      if fs.has .scripts ∨ negated then none else some (.set s, rest)
    | .anchor _ => none

/-- Reads an item or a range. A minus in front of the end of the set, or of another minus, makes no
range. -/
def readRange (fs : Flags) (cs : List Char) : Option (CharSet × List Char) := do
  let (first, rest) ← readItem fs cs
  let rest := fs.skip rest
  let single := match first with
    | .char c => CharSet.only c
    | .set s => s
  match rest with
  | [] => none
  | c :: after =>
    if c ≠ '-' ∨ fs.peek after = some ']' ∨ fs.peek after = some '-' then
      some (fold fs single, rest)
    else
      let (last, rest) ← readItem fs (fs.skip after)
      match first, last with
      | .char a, .char b => if a ≤ b then some (fold fs (CharSet.between a b), rest) else none
      | _, _ => none

/-- The minuses at the start of a set. -/
def leadingMinuses (fs : Flags) (u : Union) (fuel : Nat) (cs : List Char) :
    Union × List Char :=
  match fuel, cs with
  | fuel + 1, '-' :: rest =>
    leadingMinuses fs (u.add (CharSet.only '-') 0) fuel (fs.skip rest)
  | _, _ => (u, cs)

/-- The start of a set, behind its bracket: whether all other characters are meant, then the minuses
or the bracket that stand for themselves there. -/
def readStart (fs : Flags) (cs : List Char) : Bool × Union × List Char :=
  let cs := fs.skip cs
  let (negated, cs) := match cs with
    | '^' :: rest => (true, fs.skip rest)
    | _ => (false, cs)
  let (u, cs) := leadingMinuses fs Union.empty cs.length cs
  match u.count, cs with
  | 0, ']' :: rest => (negated, u.add (CharSet.only ']') 0, fs.skip rest)
  | _, _ => (negated, u, cs)

/-- The set up to here, with the operation done whose right side it is. -/
def settle (u : Union) : List Opened → CharSet × Nat × List Opened
  | .op op left depth :: stack =>
    (op.apply left u.set, max depth u.wholeDepth + 1, stack)
  | stack => (u.set, u.wholeDepth, stack)

/-- The operation that two characters mark. -/
def op? : List Char → Option (SetOp × List Char)
  | '&' :: '&' :: rest => some (.inter, rest)
  | '-' :: '-' :: rest => some (.diff, rest)
  | '~' :: '~' :: rest => some (.symmDiff, rest)
  | _ => none

/-- Reads on within a set, up to the bracket that closes the outermost one. Gives the set, its depth
and the characters after it. Every step reads something, so that the number of characters is fuel
enough. -/
def readFrom (fs : Flags) (fuel : Nat) (stack : List Opened) (u : Union) (cs : List Char) :
    Option (CharSet × Nat × List Char) :=
  match fuel with
  | 0 => none
  | fuel + 1 =>
    let cs := fs.skip cs
    match cs with
    | [] => none
    | '[' :: rest =>
      match readNamed? rest with
      | some (s, negated, after) => do
        let s ← negate fs negated (fold fs s)
        readFrom fs fuel stack (u.add s 0) after
      | none =>
        let (negated, inner, after) := readStart fs rest
        readFrom fs fuel (.bracket negated u :: stack) inner after
    | ']' :: rest =>
      let (s, depth, stack) := settle u stack
      match stack with
      | .bracket negated outer :: stack => do
        let s ← negate fs negated s
        if stack = [] then some (s, depth + 1, rest)
        else readFrom fs fuel stack (outer.add s (depth + 1)) rest
      | _ => none
    | cs =>
      match op? cs with
      | some (op, rest) =>
        let (s, depth, stack) := settle u stack
        readFrom fs fuel (.op op s depth :: stack) Union.empty rest
      | none => do
        let (s, rest) ← readRange fs cs
        readFrom fs fuel stack (u.add s 0) rest

/-- Reads a set, behind its bracket. Where case does not count, only bytes have sets. -/
def read (fs : Flags) (cs : List Char) : Option (CharSet × Nat × List Char) :=
  if fs.has .ignoreCase ∧ fs.has .scripts then none
  else
    let (negated, u, rest) := readStart fs cs
    readFrom fs (cs.length + 1) [.bracket negated Union.empty] u rest

end Bracket

end Ingress.Pattern
