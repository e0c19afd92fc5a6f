import Ingress.Json.Reading

/-!
# Where a text is malformed

A text that is no document is told what is wrong with it and where: the first place at which no
document can go on. The place is a line and a column, counted in bytes.
-/

namespace Ingress.Json.Diagnosis

/-- What is wrong with a text. -/
inductive Fault
  | endInValue
  | endInList
  | endInObject
  | endInString
  | noValue
  | noWord
  | noColon
  | noItemEnd
  | noMemberEnd
  | noName
  | trailingComma
  | trailingCharacters
  | number
  | numberRange
  | control
  | escape
  | notUnicode
  | loneSurrogate
  | brokenPair
  | tooDeep
deriving DecidableEq

/-- A fault in words. -/
def Fault.message : Fault → String
  | endInValue => "EOF while parsing a value"
  | endInList => "EOF while parsing a list"
  | endInObject => "EOF while parsing an object"
  | endInString => "EOF while parsing a string"
  | noValue => "expected value"
  | noWord => "expected ident"
  | noColon => "expected `:`"
  | noItemEnd => "expected `,` or `]`"
  | noMemberEnd => "expected `,` or `\x7d`"
  | noName => "key must be a string"
  | trailingComma => "trailing comma"
  | trailingCharacters => "trailing characters"
  | number => "invalid number"
  | numberRange => "number out of range"
  | control => "control character (\\u0000-\\u001F) found while parsing a string"
  | escape => "invalid escape"
  | notUnicode => "invalid unicode code point"
  | loneSurrogate => "lone leading surrogate in hex escape"
  | brokenPair => "unexpected end of hex escape"
  | tooDeep => "recursion limit exceeded"

/-- A container that is open. -/
inductive Container
  | list
  | object
deriving DecidableEq

/-- What is due between two tokens. -/
inductive Due
  | value
  /-- An item, or the end of a list that has none. -/
  | firstItem
  /-- An item after a comma. -/
  | item
  /-- A name, or the end of an object that has none. -/
  | firstName
  /-- A name after a comma. -/
  | name
  | colon
  /-- What follows a value. -/
  | next

/-- How far a number has come. -/
inductive Stretch
  /-- After the sign. -/
  | sign
  | whole
  /-- After the point. -/
  | point
  | fraction
  /-- After the mark of the exponent; it may still have a sign. -/
  | mark
  | exponentSign
  | exponent
deriving DecidableEq

/-- Where in a string a byte stands. -/
inductive Inside
  | plain
  | backslash
  /-- In the digits of an escape; the first half of a pair may have come before. -/
  | digits (high : Bool) (read : List Char)
  /-- After the first half of a pair. -/
  | half
  | halfBackslash

/-- Where a byte stands. -/
inductive State
  | between (due : Due)
  /-- In a keyword, with the rest of it. -/
  | word (rest : List Char)
  /-- In a number, with its characters so far in reverse. -/
  | number (stretch : Stretch) (read : List Char)
  /-- In a string, with its bytes so far in reverse. -/
  | string (isName : Bool) (inside : Inside) (read : List UInt8)

/-- A fault and the number of bytes up to it. -/
abbrev Step := Except (Fault × Nat) (State × List Container)

/-- The byte as a character of its own. -/
def character (b : UInt8) : Char := Char.ofNat b.toNat

/-- Opens a container, unless too many are open. -/
def openContainer (i : Nat) (open_ : List Container) (c : Container) : Step :=
  if open_.length < Reading.maxDepth then
    .ok (.between (if c = .list then .firstItem else .firstName), c :: open_)
  else .error (.tooDeep, i + 1)

/-- The first byte of a value, which stands at a place. -/
def begins (i : Nat) (open_ : List Container) (c : Char) : Step :=
  if c = 'n' then .ok (.word ['u', 'l', 'l'], open_)
  else if c = 't' then .ok (.word ['r', 'u', 'e'], open_)
  else if c = 'f' then .ok (.word ['a', 'l', 's', 'e'], open_)
  else if c = '"' then .ok (.string false .plain [], open_)
  else if c = '-' then .ok (.number .sign [c], open_)
  else if c.isDigit then .ok (.number .whole [c], open_)
  else if c = '[' then openContainer i open_ .list
  else if c = '\x7b' then openContainer i open_ .object
  else .error (.noValue, i + 1)

/-- A byte between two tokens. -/
def meets (due : Due) (i : Nat) (open_ : List Container) (c : Char) : Step :=
  if isSpace c then .ok (.between due, open_)
  else match due with
  | .value => begins i open_ c
  | .firstItem => if c = ']' then .ok (.between .next, open_.drop 1) else begins i open_ c
  | .item => if c = ']' then .error (.trailingComma, i + 1) else begins i open_ c
  | .firstName =>
    if c = '\x7d' then .ok (.between .next, open_.drop 1)
    else if c = '"' then .ok (.string true .plain [], open_)
    else .error (.noName, i + 1)
  | .name =>
    if c = '"' then .ok (.string true .plain [], open_)
    else if c = '\x7d' then .error (.trailingComma, i + 1)
    else .error (.noName, i + 1)
  | .colon => if c = ':' then .ok (.between .value, open_) else .error (.noColon, i + 1)
  | .next =>
    match open_ with
    | [] => .error (.trailingCharacters, i + 1)
    | .list :: outer =>
      if c = ']' then .ok (.between .next, outer)
      else if c = ',' then .ok (.between .item, open_)
      else .error (.noItemEnd, i + 1)
    | .object :: outer =>
      if c = '\x7d' then .ok (.between .next, outer)
      else if c = ',' then .ok (.between .name, open_)
      else .error (.noMemberEnd, i + 1)

/-- The literal that the characters of a number stand for, given in reverse. -/
def literal? (read : List Char) : Option Literal :=
  match read.reverse with
  | '-' :: digits => (Literal.scan? true (digits.map some)).map (·.1)
  | digits => (Literal.scan? false (digits.map some)).map (·.1)

/-- Whether a number is past the largest one. -/
def isBeyond (read : List Char) : Bool := (literal? read).any (·.toNumber?.isNone)

/-- Whether the last digit of an exponent made it too large to go on. -/
def overflows (read : List Char) : Bool :=
  (literal? read).any fun l =>
    match l.exponent with
    | some (false, digits) =>
      Literal.maxExponent < Text.numeral digits && (l.whole ++ l.fraction).any (· ≠ '0')
    | _ => false

/-- The stretch that a character takes a number to; none where the number ends before it. -/
def goesOn (stretch : Stretch) (read : List Char) (c : Char) : Except Fault (Option Stretch) :=
  let mark := c = 'e' ∨ c = 'E'
  match stretch with
  | .sign => if c.isDigit then .ok (some .whole) else .error .number
  | .whole =>
    if c.isDigit then
      if read = ['0'] ∨ read = ['0', '-'] then .error .number else .ok (some .whole)
    else if c = '.' then .ok (some .point)
    else if mark then .ok (some .mark)
    else .ok none
  | .point => if c.isDigit then .ok (some .fraction) else .error .number
  | .fraction =>
    if c.isDigit then .ok (some .fraction) else if mark then .ok (some .mark) else .ok none
  | .mark =>
    if c.isDigit then .ok (some .exponent)
    else if c = '+' ∨ c = '-' then .ok (some .exponentSign)
    else .error .number
  | .exponentSign => if c.isDigit then .ok (some .exponent) else .error .number
  | .exponent => if c.isDigit then .ok (some .exponent) else .ok none

/-- A byte in or after a number. -/
def inNumber (stretch : Stretch) (read : List Char) (i : Nat) (open_ : List Container) (c : Char) :
    Step :=
  match goesOn stretch read c with
  | .error f => .error (f, i + 1)
  | .ok (some .exponent) =>
    if overflows (c :: read) then .error (.numberRange, i + 1)
    else .ok (.number .exponent (c :: read), open_)
  | .ok (some stretch) => .ok (.number stretch (c :: read), open_)
  | .ok none => if isBeyond read then .error (.numberRange, i) else meets .next i open_ c

/-- What follows the four digits of an escape. -/
def afterDigits (high : Bool) (read : List Char) (i : Nat) : Except (Fault × Nat) Inside :=
  match read.reverse.mapM Text.hexValue? with
  | none => .error (.escape, i + 1)
  | some values =>
    let n := values.foldl (fun n d => 16 * n + d) 0
    if high then if Piece.isLow n then .ok .plain else .error (.loneSurrogate, i + 1)
    else if Piece.isLow n then .error (.loneSurrogate, i + 1)
    else .ok (if Piece.isHigh n then .half else .plain)

/-- A byte within a string that does not end it. -/
def insideString (inside : Inside) (i : Nat) (c : Char) : Except (Fault × Nat) Inside :=
  match inside with
  | .plain =>
    if c = '\\' then .ok .backslash
    else if c.toNat < 0x20 then .error (.control, i + 1)
    else .ok .plain
  | .backslash =>
    if c = 'u' then .ok (.digits false [])
    else if (Piece.simpleEscape? c).isSome then .ok .plain
    else .error (.escape, i + 1)
  | .digits high read =>
    if read.length < 3 then .ok (.digits high (c :: read)) else afterDigits high (c :: read) i
  | .half => if c = '\\' then .ok .halfBackslash else .error (.brokenPair, i + 1)
  | .halfBackslash => if c = 'u' then .ok (.digits true []) else .error (.brokenPair, i + 1)

/-- Whether bytes are Unicode. -/
def isUnicode (bytes : List UInt8) : Bool :=
  (Text.glyphsOfBytes ⟨bytes.toArray⟩).all (·.isSome)

/-- A byte in a string. -/
def inString (isName : Bool) (inside : Inside) (read : List UInt8) (i : Nat)
    (open_ : List Container) (b : UInt8) : Step :=
  match inside, character b with
  | .plain, '"' =>
    if isUnicode read.reverse then .ok (.between (if isName then .colon else .next), open_)
    else .error (.notUnicode, i + 1)
  | inside, c =>
    match insideString inside i c with
    | .ok inside => .ok (.string isName inside (b :: read), open_)
    | .error f => .error f

/-- A byte in a keyword. -/
def inWord (rest : List Char) (i : Nat) (open_ : List Container) (c : Char) : Step :=
  match rest with
  | [] => meets .next i open_ c
  | [d] => if c = d then .ok (.between .next, open_) else .error (.noWord, i + 1)
  | d :: more => if c = d then .ok (.word more, open_) else .error (.noWord, i + 1)

/-- The next byte, which stands at a place. -/
def step (s : State) (i : Nat) (open_ : List Container) (b : UInt8) : Step :=
  match s with
  | .between due => meets due i open_ (character b)
  | .word rest => inWord rest i open_ (character b)
  | .number stretch read => inNumber stretch read i open_ (character b)
  | .string isName inside read => inString isName inside read i open_ b

/-- What is wrong where the text ends, if anything is. -/
def atEnd (s : State) (open_ : List Container) : Option Fault :=
  match s with
  | .between .value | .between .item | .between .name => some .endInValue
  | .between .firstItem => some .endInList
  | .between .firstName | .between .colon => some .endInObject
  | .between .next => unclosed
  | .word _ => some .endInValue
  | .number .sign _ | .number .point _ | .number .mark _ | .number .exponentSign _ =>
    some .endInValue
  | .number _ read => if isBeyond read then some .numberRange else unclosed
  | .string .. => some .endInString
where
  /-- The container that is not closed. -/
  unclosed : Option Fault :=
    match open_ with
    | [] => none
    | .list :: _ => some .endInList
    | .object :: _ => some .endInObject

/-- The first fault from a place on, with the number of bytes up to it. -/
def scan (s : State) (i : Nat) (open_ : List Container) : List UInt8 → Option (Fault × Nat)
  | [] => (atEnd s open_).map fun f => (f, i)
  | b :: rest =>
    match step s i open_ b with
    | .ok (s, open_) => scan s (i + 1) open_ rest
    | .error f => some f

/-- The line and the column after some bytes. -/
def position (bytes : List UInt8) : Nat × Nat :=
  (1 + bytes.count 10, (bytes.reverse.takeWhile (· ≠ 10)).length)

/-- The first fault of a text that is no document, with its line and column; nothing if it is one.
-/
def ofBytes (body : ByteArray) : String :=
  let bytes := body.toList
  match scan (.between .value) 0 [] bytes with
  | some (f, i) =>
    let (line, column) := position (bytes.take i)
    f.message ++ " at line " ++ toString line ++ " column " ++ toString column
  | none => ""

end Ingress.Json.Diagnosis
