import Ingress.Text.Ascii

/-!
# Socket addresses

An address by number with a port: four decimal bytes, or in brackets eight hexadecimal groups, of
which a run of zeros may be left out and the last two may be written as four bytes. Groups are
written back with their longest run of zeros left out.
-/

namespace Ingress.Http

/-- A place that a service can listen at. -/
inductive Address
  /-- Four bytes. -/
  | short (bytes : List Nat) (port : Nat)
  /-- Eight groups of two bytes; the zone is zero where none is given. -/
  | wide (groups : List Nat) (zone : Nat) (port : Nat)
deriving DecidableEq

namespace Address

/-- The port of an address. -/
def port : Address → Nat
  | short _ port => port
  | wide _ _ port => port

/-! ## Reading -/

/-- The value of a digit in a base. -/
def digit? (base : Nat) (c : Char) : Option Nat := (Text.hexValue? c).filter (· < base)

/-- A number off the front, of so many digits at most, and the characters after it. -/
def number? (base most : Nat) (zeroFirst : Bool) (cs : List Char) : Option (Nat × List Char) :=
  let digits := cs.takeWhile fun c => (digit? base c).isSome
  if digits = [] ∨ most < digits.length ∨ (!zeroFirst ∧ digits.head? = some '0' ∧ 1 < digits.length)
  then none
  else some ((digits.filterMap (digit? base)).foldl (fun n d => base * n + d) 0,
    cs.dropWhile fun c => (digit? base c).isSome)

/-- A number below a bound, of any length. -/
def bounded? (bound : Nat) (cs : List Char) : Option (Nat × List Char) :=
  (number? 10 cs.length true cs).filter fun p => p.1 < bound

/-- One byte of an address. -/
def byte? (cs : List Char) : Option (Nat × List Char) :=
  (number? 10 3 false cs).filter fun p => p.1 < 256

/-- So many bytes with points between them, and the characters after them. -/
def bytes? : Nat → List Char → Option (List Nat × List Char)
  | 0, cs => some ([], cs)
  | 1, cs => (byte? cs).map fun (b, rest) => ([b], rest)
  | n + 1, cs =>
    match byte? cs with
    | some (b, '.' :: rest) => (bytes? n rest).map fun (bs, rest) => (b :: bs, rest)
    | _ => none

/-- The groups that four bytes make up. -/
def pairs : List Nat → List Nat
  | a :: b :: rest => (256 * a + b) :: pairs rest
  | _ => []

/-- Groups with colons between them, up to a limit: the groups, whether the last two of them were
written as four bytes, and the characters after them. -/
def groups : (limit : Nat) → (first : Bool) → List Char → List Nat × Bool × List Char
  | 0, _, cs => ([], false, cs)
  | limit + 1, first, cs =>
    let next? : Option (List Char) :=
      if first then some cs
      else match cs with
        | ':' :: rest => some rest
        | _ => none
    match next? with
    | none => ([], false, cs)
    | some start =>
      match (if limit = 0 then none else bytes? 4 start) with
      | some (bytes, rest) => (pairs bytes, true, rest)
      | none =>
        match number? 16 4 true start with
        | none => ([], false, cs)
        | some (group, rest) =>
          let (more, bytes, rest) := groups limit false rest
          (group :: more, bytes, rest)

/-- The eight groups of an address, and the characters after them. -/
def wide? (cs : List Char) : Option (List Nat × List Char) :=
  match groups 8 true cs with
  | (front, bytes, rest) =>
    if front.length = 8 then some (front, rest)
    else if bytes then none
    else match rest with
      | ':' :: ':' :: rest =>
        let (back, _, rest) := groups (8 - (front.length + 1)) true rest
        some (front ++ List.replicate (8 - front.length - back.length) 0 ++ back, rest)
      | _ => none

/-- The port after a colon, where nothing follows it. -/
def port? : List Char → Option Nat
  | ':' :: rest =>
    match bounded? UInt16.size rest with
    | some (port, []) => some port
    | _ => none
  | _ => none

/-- The zone, if there is one, and the characters after it. -/
def zone (cs : List Char) : Nat × List Char :=
  match cs with
  | '%' :: rest => (bounded? UInt32.size rest).getD (0, cs)
  | cs => (0, cs)

/-- The address that a text gives. -/
def ofText? (s : String) : Option Address :=
  match s.toList with
  | '[' :: rest => do
    let (groups, rest) ← wide? rest
    match zone rest with
    | (zone, ']' :: rest) =>
      let port ← port? rest
      pure (.wide groups zone port)
    | _ => none
  | cs => do
    let (bytes, rest) ← bytes? 4 cs
    let port ← port? rest
    pure (.short bytes port)

/-- Whether a text is a socket address. -/
def isSocketAddress (s : String) : Bool := (ofText? s).isSome

/-! ## Writing -/

/-- Bytes with points between them. -/
def dotted (bytes : List Nat) : String := Text.joined "." (bytes.map toString)

/-- A group in base sixteen, small letters. -/
def hex (group : Nat) : String := String.ofList (Nat.toDigits 16 group)

/-- The length of the run of zeros that groups begin with. -/
def zeros (groups : List Nat) : Nat := (groups.takeWhile (· = 0)).length

/-- The place and the length of the first of the longest runs of zeros. -/
def longestRun : List Nat → Nat × Nat
  | [] => (0, 0)
  | g :: rest =>
    let here := zeros (g :: rest)
    let (place, length) := longestRun rest
    if length ≤ here then (0, here) else (place + 1, length)

/-- Groups with colons between them. -/
def coloned (groups : List Nat) : String := Text.joined ":" (groups.map hex)

/-- Eight groups; short addresses in the guise of wide ones show their four bytes. -/
def writeGroups (groups : List Nat) : String :=
  match groups with
  | [0, 0, 0, 0, 0, 0xFFFF, a, b] =>
    "::ffff:" ++ dotted [a / 256, a % 256, b / 256, b % 256]
  | groups =>
    let (place, length) := longestRun groups
    if 1 < length then
      coloned (groups.take place) ++ "::" ++ coloned (groups.drop (place + length))
    else coloned groups

/-- The written form of an address. -/
def display : Address → String
  | short bytes port => dotted bytes ++ ":" ++ toString port
  | wide groups zone port =>
    "[" ++ writeGroups groups ++ (if zone = 0 then "" else "%" ++ toString zone) ++ "]:"
      ++ toString port

end Address

end Ingress.Http
