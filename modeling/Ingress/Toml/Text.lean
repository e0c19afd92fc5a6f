import Ingress.Text.Ascii

/-!
# Texts and keys of TOML

The four kinds of strings, comments, and keys. Each function takes what it reads off the front of
the characters and gives back the rest.
-/

namespace Ingress.Toml

/-- Blanks within a line. -/
def isSpace (c : Char) : Bool := c = ' ' || c = '\t'

/-- A character that may stand in a comment or in a literal string: no control character but the
tab. -/
def isPlain (c : Char) : Bool := c = '\t' || (0x20 ≤ c.toNat && c.toNat ≤ 0x7E) || 0x80 ≤ c.toNat

/-- The characters after the blanks. -/
def skipSpace (cs : List Char) : List Char := cs.dropWhile isSpace

/-- The characters after a comment, if there is one. -/
def skipComment : List Char → List Char
  | '#' :: rest => rest.dropWhile isPlain
  | cs => cs

/-- The characters after a line end. -/
def lineEnd? : List Char → Option (List Char)
  | '\n' :: rest => some rest
  | '\r' :: '\n' :: rest => some rest
  | _ => none

/-- The characters after blanks, line ends and comments. -/
def skipLines : List Char → List Char
  | [] => []
  | '\r' :: '\n' :: rest => skipLines rest
  | c :: rest =>
    if isSpace c || c = '\n' then skipLines rest
    else if c = '#' then skipRest rest
    else c :: rest
where
  /-- The rest of a comment and what follows it. -/
  skipRest : List Char → List Char
    | [] => []
    | '\r' :: '\n' :: rest => skipLines rest
    | c :: rest =>
      if c = '\n' then skipLines rest else if isPlain c then skipRest rest else c :: rest

/-- The character of a code in hexadecimal digits, if there is one. -/
def scalar? (digits : List Char) : Option Char := do
  let values ← digits.mapM Text.hexValue?
  let n := values.foldl (fun n d => 16 * n + d) 0
  if n < 0xD800 ∨ (0xDFFF < n ∧ n < 0x110000) then some (Char.ofNat n) else none

/-- The character that a letter after a backslash stands for. -/
def escaped? : Char → Option Char
  | 'b' => some '\x08'
  | 't' => some '\t'
  | 'n' => some '\n'
  | 'f' => some '\x0c'
  | 'r' => some '\r'
  | '"' => some '"'
  | '\\' => some '\\'
  | _ => none

/-- Puts a character in front of what was read. -/
def prepend (c : Char) (taken : Option (List Char × List Char)) : Option (List Char × List Char) :=
  taken.map fun (cs, rest) => (c :: cs, rest)

/-- The rest of a string in double quotes. -/
def basic : List Char → Option (List Char × List Char)
  | '"' :: rest => some ([], rest)
  | '\\' :: 'u' :: a :: b :: c :: d :: rest =>
    (scalar? [a, b, c, d]).bind fun x => prepend x (basic rest)
  | '\\' :: 'U' :: a :: b :: c :: d :: e :: f :: g :: h :: rest =>
    (scalar? [a, b, c, d, e, f, g, h]).bind fun x => prepend x (basic rest)
  | '\\' :: e :: rest => (escaped? e).bind fun x => prepend x (basic rest)
  | c :: rest => if isPlain c ∧ c ≠ '\\' then prepend c (basic rest) else none
  | [] => none

/-- The rest of a string in single quotes. -/
def literal : List Char → Option (List Char × List Char)
  | '\'' :: rest => some ([], rest)
  | c :: rest => if isPlain c then prepend c (literal rest) else none
  | [] => none

/-- How a string over several lines goes on. -/
inductive LineState
  /-- With its characters. -/
  | text
  /-- After a backslash and blanks, where the line has to end. -/
  | folding
  /-- After that line end; blanks and line ends are dropped. -/
  | folded

/-- The end of a string over several lines: three quotes, after up to two that belong to it. -/
def closing? (q : Char) : List Char → Option (List Char × List Char)
  | a :: b :: c :: d :: e :: rest =>
    if a = q ∧ b = q ∧ c = q then
      if d = q then if e = q then some ([q, q], rest) else some ([q], e :: rest)
      else some ([], d :: e :: rest)
    else none
  | [a, b, c, d] =>
    if a = q ∧ b = q ∧ c = q then if d = q then some ([q], []) else some ([], [d]) else none
  | [a, b, c] => if a = q ∧ b = q ∧ c = q then some ([], []) else none
  | _ => none

/-- The rest of a string over several lines in double quotes. -/
def basicLines : LineState → List Char → Option (List Char × List Char)
  | _, [] => none
  | .folding, c :: rest =>
    if isSpace c then basicLines .folding rest
    else if c = '\n' then basicLines .folded rest
    else match c, rest with
      | '\r', '\n' :: rest => basicLines .folded rest
      | _, _ => none
  | .folded, '\r' :: '\n' :: rest => basicLines .folded rest
  | _, '\\' :: 'u' :: a :: b :: c :: d :: rest =>
    (scalar? [a, b, c, d]).bind fun x => prepend x (basicLines .text rest)
  | _, '\\' :: 'U' :: a :: b :: c :: d :: e :: f :: g :: h :: rest =>
    (scalar? [a, b, c, d, e, f, g, h]).bind fun x => prepend x (basicLines .text rest)
  | _, '\\' :: '\r' :: '\n' :: rest => basicLines .folded rest
  | _, '\\' :: e :: rest =>
    if e = '\n' then basicLines .folded rest
    else if isSpace e then basicLines .folding rest
    else (escaped? e).bind fun x => prepend x (basicLines .text rest)
  | .text, '\r' :: '\n' :: rest => prepend '\n' (basicLines .text rest)
  | .folded, c :: rest =>
    if isSpace c || c = '\n' then basicLines .folded rest
    else match closing? '"' (c :: rest) with
      | some taken => some taken
      | none => if isPlain c ∧ c ≠ '\\' then prepend c (basicLines .text rest) else none
  | .text, c :: rest =>
    match closing? '"' (c :: rest) with
    | some taken => some taken
    | none =>
      if c = '\n' ∨ (isPlain c ∧ c ≠ '\\') then prepend c (basicLines .text rest) else none

/-- The rest of a string over several lines in single quotes. -/
def literalLines : List Char → Option (List Char × List Char)
  | [] => none
  | '\r' :: '\n' :: rest => prepend '\n' (literalLines rest)
  | c :: rest =>
    match closing? '\'' (c :: rest) with
    | some taken => some taken
    | none => if c = '\n' ∨ isPlain c then prepend c (literalLines rest) else none

/-- The characters after a line end that follows at once. -/
def dropLineEnd (cs : List Char) : List Char := (lineEnd? cs).getD cs

/-- A string of any kind. -/
def string? : List Char → Option (String × List Char)
  | '"' :: '"' :: '"' :: rest => asText (basicLines .text (dropLineEnd rest))
  | '\'' :: '\'' :: '\'' :: rest => asText (literalLines (dropLineEnd rest))
  | '"' :: rest => asText (basic rest)
  | '\'' :: rest => asText (literal rest)
  | _ => none
where
  /-- The characters as a text. -/
  asText (taken : Option (List Char × List Char)) : Option (String × List Char) :=
    taken.map fun (cs, rest) => (String.ofList cs, rest)

/-- A character of a key without quotes. -/
def isKeyChar (c : Char) : Bool := c.isAlphanum || c = '_' || c = '-'

/-- One part of a key. -/
def keyPart : List Char → Option (String × List Char)
  | '"' :: rest => (basic rest).map fun (cs, rest) => (String.ofList cs, rest)
  | '\'' :: rest => (literal rest).map fun (cs, rest) => (String.ofList cs, rest)
  | cs =>
    let name := cs.takeWhile isKeyChar
    if name = [] then none else some (String.ofList name, cs.dropWhile isKeyChar)

/-- A key of parts with points between them, with the blanks around it. -/
def key : (fuel : Nat) → List Char → Option (List String × List Char)
  | 0, _ => none
  | fuel + 1, cs => do
    let (part, rest) ← keyPart (skipSpace cs)
    match skipSpace rest with
    | '.' :: rest =>
      let (parts, rest) ← key fuel rest
      some (part :: parts, rest)
    | rest => some ([part], rest)

end Ingress.Toml
