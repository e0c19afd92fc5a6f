import Ingress.Http.Host.FormTable
import Ingress.Http.Host.Punycode
import Ingress.Text.DirectionTable
import Ingress.Text.JoinTable
import Ingress.Text.Lowercase
import Ingress.Text.Pieces

/-!
# Names of hosts

A host name may be written with characters of any script. They are brought into one form first; then
every part of the name has to obey the rules for marks, for invisible joiners and for the direction
of writing. A name whose last part is a number is an address and no name.
-/

namespace Ingress.Http.Host

open Text (CodeRange Direction direction)

/-! ## One form for all -/

/-- Asks that the letters around it do not join. -/
def nonJoiner : Char := '\u200c'

/-- Asks that the letters around it join. -/
def joiner : Char := '\u200d'

/-- Marks of addresses and of ASCII control that no name has. -/
def isForbidden (c : Char) : Bool :=
  c ≤ ' ' || c = '\x7f' || "#/:<>?@[\\]^|%\"\x7b\x7d".toList.contains c || c = Char.ofNat 0x60

/-- What a character stands for if ASCII is part of it. -/
def asciiForm? (c : Char) : Option (List Char) :=
  asciiForms.findSome? fun (first, forms) =>
    if first ≤ c.toNat ∧ c.toNat < first + forms.utf8ByteSize then
      (Text.pieces ' ' forms.toList)[c.toNat - first]?
    else none

/-- Whether a character beyond ASCII is never part of a name. -/
def isRefused (c : Char) : Bool :=
  c ≠ nonJoiner && c ≠ joiner
    && (CodeRange.anyHolds Text.blankRanges c.toNat || CodeRange.anyHolds refusedRanges c.toNat)

/-- Whether a character stands for a small letter. The capitals of Cherokee are the usual form of
its letters. -/
def isCapital (c : Char) : Bool :=
  (Text.caseRun? c.toNat).isSome && !(0x13A0 ≤ c.toNat && c.toNat ≤ 0x13F5)

/-- The characters that one character of a name stands for. Characters that stand for others beyond
ASCII are kept: they are part of a name like those that they stand for. -/
def form? (c : Char) : Option (List Char) :=
  if c.toNat < 0x80 then some [c.toLower]
  else if CodeRange.anyHolds ignoredRanges c.toNat then some []
  else if isRefused c then none
  else match asciiForm? c with
    | some cs => some cs
    | none => some (if isCapital c then Text.smallLetters c else [c])

/-- Whether a character is in its one form. -/
def isSettled (c : Char) : Bool :=
  form? c = some [c] && !CodeRange.anyHolds variantRanges c.toNat

/-! ## Parts of names -/

/-- The mark of a part that stands for characters beyond ASCII. -/
def encodedMark : List Char := "xn--".toList

/-- The characters that a part of a name stands for. -/
def decodePart? (part : List Char) : Option (List Char) :=
  if encodedMark.isPrefixOf part then do
    let code := part.drop encodedMark.length
    guard (code ≠ [] ∧ code.getLast? ≠ some '-')
    let decoded ← Punycode.decode? code
    guard (decoded.all isSettled && !encodedMark.isPrefixOf decoded)
    pure decoded
  else some part

/-- Whether an invisible joiner has its place between what comes before it, in reverse, and what
comes after it: behind a mark that joins consonants, or, if it keeps letters from joining, between
letters that would join. -/
def joinerFits (c : Char) (before after : List Char) : Bool :=
  before.head?.any Text.isVirama
    || (c = nonJoiner
      && ((before.dropWhile Text.isExtending).head?.any Text.joinsForward)
      && ((after.dropWhile Text.isExtending).head?.any Text.joinsBackward))

/-- Whether all invisible joiners have their places. -/
def joinersFit (before : List Char) : List Char → Bool
  | [] => true
  | c :: rest =>
    ((c ≠ nonJoiner && c ≠ joiner) || joinerFits c before rest) && joinersFit (c :: before) rest

/-- Whether a part runs in one direction. It begins with a letter of its direction, and ends with
one or with a digit; a part from right to left has digits of one kind only. -/
def hasOneDirection (part : List Char) : Bool :=
  let ds := part.map direction
  let last := (ds.reverse.dropWhile (· = .mark)).head?
  match ds.head? with
  | none => true
  | some .left =>
    (last = some .left || last = some .european)
      && ds.all fun d => d ≠ .right && d ≠ .arabic
  | some .right =>
    (last = some .right || last = some .european || last = some .arabic)
      && ds.all (· ≠ .left) && !(ds.contains .european && ds.contains .arabic)
  | some _ => false

/-- Whether some character runs from right to left. -/
def runsLeft (part : List Char) : Bool :=
  part.any fun c => direction c = .right || direction c = .arabic

/-- Whether a part obeys the rules for marks and joiners. -/
def isPart (part : List Char) : Bool := !part.head?.any Text.isMark && joinersFit [] part

/-! ## Names and numbers -/

/-- Whether a part of a host is a number. -/
def isNumber : List Char → Bool
  | '0' :: 'x' :: digits => digits.all fun c => (Text.hexValue? c).isSome
  | part => part ≠ [] && part.all Char.isDigit

/-- Whether a host is an address by number: its last part is one. -/
def isNumeric (host : List Char) : Bool :=
  match (Text.pieces '.' host).reverse with
  | [] :: part :: _ => isNumber part
  | part :: _ => isNumber part
  | [] => false

/-- The bytes that escapes stand for. -/
def unescape : List UInt8 → List UInt8
  | 0x25 :: a :: b :: rest =>
    match Text.hexValue? (Char.ofNat a.toNat), Text.hexValue? (Char.ofNat b.toNat) with
    | some x, some y => (16 * x + y).toUInt8 :: unescape rest
    | _, _ => 0x25 :: unescape (a :: b :: rest)
  | b :: rest => b :: unescape rest
  | [] => []

/-- The name of the host that characters stand for, unless it is given by number. -/
def name? (cs : List Char) : Option (List Char) := do
  let text ← String.fromUTF8? ⟨(unescape (String.ofList cs).toUTF8.toList).toArray⟩
  let name := (← text.toList.mapM form?).flatten
  guard (name ≠ [] ∧ ¬ name.any isForbidden)
  let parts ← (Text.pieces '.' name).mapM decodePart?
  guard (parts.all isPart ∧ (parts.any runsLeft → parts.all hasOneDirection) ∧ ¬ isNumeric name)
  pure name

end Ingress.Http.Host
