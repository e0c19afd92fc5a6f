import Ingress.Text.Blank
import Ingress.Text.Utf8
import Ingress.Text.WordTable

/-!
# Environments

Variables in the order in which they were first set, and the variables that an environment file
adds. Such a file holds one variable a line; a value in quotes may go on over several lines.
Variables that are set already keep their values.
-/

namespace Ingress.Config

/-- Variables with their values. -/
abbrev Environment := List (String × String)

namespace Environment

/-- The value of a variable. -/
def get? (name : String) (e : Environment) : Option String :=
  (e.find? (·.1 = name)).map (·.2)

/-- Sets a variable; one that is set already keeps its place. -/
def set (name value : String) (e : Environment) : Environment :=
  if e.any (·.1 = name) then e.map fun v => if v.1 = name then (name, value) else v
  else e ++ [(name, value)]

/-- Sets a variable that is not set yet. -/
def offer (name value : String) (e : Environment) : Environment :=
  if (e.get? name).isSome then e else e.set name value

end Environment

namespace EnvironmentFile

/-- A line that cannot be read, and the place of the fault in it. -/
structure Fault where
  line : String
  index : Nat
deriving DecidableEq

/-- The fault in words. -/
def Fault.message (f : Fault) : String :=
  "Error parsing line: '" ++ f.line ++ "', error at line index: " ++ toString f.index

/-- A fault in some characters. -/
def fault (line : List Char) (index : Nat) : Except Fault α :=
  .error ⟨String.ofList line, index⟩

/-- The length of characters in bytes. -/
def size (cs : List Char) : Nat := (String.ofList cs).utf8ByteSize

/-- How a line stands at its end, which tells whether it goes on. -/
inductive LineState
  | complete
  | blank
  | escape
  | strong
  | strongEscape
  | weak
  | weakEscape

/-- The state after a character outside of quotes. -/
def LineState.open_ : Char → LineState
  | '\\' => .escape
  | '"' => .weak
  | '\'' => .strong
  | _ => .complete

/-- The state after a character; none where a comment begins. -/
def LineState.next : LineState → Char → Option LineState
  | .blank, '#' => none
  | .blank, c => some (.open_ c)
  | .escape, _ => some .complete
  | .complete, c =>
    if Text.isBlank c ∧ c ≠ '\n' ∧ c ≠ '\r' then some .blank else some (.open_ c)
  | .weak, '\\' => some .weakEscape
  | .weak, '"' => some .complete
  | .weak, _ => some .weak
  | .weakEscape, _ => some .weak
  | .strong, '\\' => some .strongEscape
  | .strong, '\'' => some .complete
  | .strong, _ => some .strong
  | .strongEscape, _ => some .strong

/-- The state at the end of a line, or the characters before a comment in it. -/
def finalState : LineState → List Char → LineState ⊕ List Char
  | state, [] => .inl state
  | state, c :: rest =>
    match state.next c with
    | none => .inr []
    | some state =>
      match finalState state rest with
      | .inl state => .inl state
      | .inr before => .inr (c :: before)

/-- The lines of a file, each with its line end. -/
def rawLines : List Text.Glyph → List (List Text.Glyph)
  | [] => []
  | some '\n' :: rest => [some '\n'] :: rawLines rest
  | g :: rest =>
    match rawLines rest with
    | [] => [[g]]
    | line :: lines => (g :: line) :: lines

/-- A line without its end. -/
def chomp (line : List Char) : List Char :=
  match line.reverse with
  | '\n' :: '\r' :: rest => rest.reverse
  | '\n' :: rest => rest.reverse
  | _ => line

/-- Whether a line is a comment. -/
def isComment (line : List Char) : Bool := (line.dropWhile Text.isBlank).head? = some '#'

/-- The lines as they are read, those in quotes put together. Where the file ends within one there
is a fault; a line that is no text ends the reading without one. -/
def joinLines : LineState → List Char → List (List Text.Glyph) →
    List (Except (Option Fault) (List Char))
  | .complete, _, [] => []
  | _, sofar, [] => [.error (some ⟨String.ofList sofar, size sofar⟩)]
  | state, sofar, glyphs :: rest =>
    match glyphs.mapM id with
    | none => [.error none]
    | some raw =>
      let line := sofar ++ raw
      if isComment line then .ok [] :: joinLines .complete [] rest
      else
        match finalState state raw with
        | .inl .complete => .ok (chomp line) :: joinLines .complete [] rest
        | .inl state => joinLines state line rest
        | .inr before => .ok (sofar ++ before) :: joinLines .complete [] rest

/-- What a value is being read as. -/
inductive ValueState
  | plain
  | ended
  | escape
  | strong
  /-- The name of a variable after a dollar sign. -/
  | name (name : List Char)
  /-- The name of a variable in braces. -/
  | braced (name : List Char)

/-- The value of a variable in a value; nothing if it is not set. -/
def substitute (e : Environment) (name : List Char) : List Char :=
  ((e.get? (String.ofList name)).getD "").toList

/-- What a character after a backslash stands for. -/
def unescape? : Char → Option Char
  | '\\' => some '\\'
  | '\'' => some '\''
  | '"' => some '"'
  | '$' => some '$'
  | ' ' => some ' '
  | 'n' => some '\n'
  | _ => none

/-- Reads a value; `all` is the whole of it, for faults. -/
def value (e : Environment) (all : List Char) :
    ValueState → (weak : Bool) → Nat → (out : List Char) → List Char → Except Fault (List Char)
  | state, weak, _, out, [] =>
    match state, weak with
    | .braced _, _ | .strong, _ | _, true => fault all (size all - 1)
    | .name name, false => .ok (out ++ substitute e name)
    | _, false => .ok out
  | .ended, weak, i, out, c :: rest =>
    if c = ' ' ∨ c = '\t' then value e all .ended weak (i + 1) out rest
    else if c = '#' then .ok out
    else fault all i
  | .escape, weak, i, out, c :: rest =>
    match unescape? c with
    | some x => value e all .plain weak (i + 1) (out ++ [x]) rest
    | none => fault all i
  | .strong, weak, i, out, c :: rest =>
    if c = '\'' then value e all .plain weak (i + 1) out rest
    else value e all .strong weak (i + 1) (out ++ [c]) rest
  | .name name, weak, i, out, c :: rest =>
    if Text.isLetterOrDigit c then value e all (.name (name ++ [c])) weak (i + 1) out rest
    else if c = '\x7b' ∧ name = [] then value e all (.braced []) weak (i + 1) out rest
    else
      let out := out ++ substitute e name
      if c = '$' then value e all (.name []) weak (i + 1) out rest
      else value e all .plain weak (i + 1) (out ++ [c]) rest
  | .braced name, weak, i, out, c :: rest =>
    if c = '\x7d' then value e all .plain weak (i + 1) (out ++ substitute e name) rest
    else value e all (.braced (name ++ [c])) weak (i + 1) out rest
  | .plain, weak, i, out, c :: rest =>
    if c = '$' then value e all (.name []) weak (i + 1) out rest
    else if c = '\\' then value e all .escape weak (i + 1) out rest
    else if c = '"' then value e all .plain (!weak) (i + 1) out rest
    else if weak then value e all .plain weak (i + 1) (out ++ [c]) rest
    else if c = '\'' then value e all .strong weak (i + 1) out rest
    else if c = ' ' ∨ c = '\t' then value e all .ended weak (i + 1) out rest
    else value e all .plain weak (i + 1) (out ++ [c]) rest

/-- A character of a variable's name. -/
def isKeyChar (c : Char) : Bool := c.isAlphanum || c = '_' || c = '.'

/-- The name of a variable at the front, and what follows it after blanks. -/
def key (line : List Char) (pos : Nat) (cs : List Char) :
    Except Fault (String × Nat × List Char) :=
  match cs.head? with
  | some c =>
    if c.isAlpha || c = '_' then
      let name := cs.takeWhile isKeyChar
      let rest := cs.dropWhile isKeyChar
      let blanks := rest.takeWhile Text.isBlank
      .ok (String.ofList name, pos + size name + size blanks, rest.dropWhile Text.isBlank)
    else fault line pos
  | none => fault line pos

/-- The characters after an equals sign. -/
def equals (line : List Char) (pos : Nat) : List Char → Except Fault (List Char)
  | '=' :: rest => .ok rest
  | _ => fault line pos

/-- The variable that a line sets, if it sets one. -/
def variable_ (e : Environment) (line : List Char) : Except Fault (Option (String × String)) := do
  let cs := (line.reverse.dropWhile Text.isBlank).reverse
  let start := cs.dropWhile Text.isBlank
  let pos := size (cs.takeWhile Text.isBlank)
  if start = [] ∨ start.head? = some '#' then pure none
  else
    let (name, pos, rest) ← key line pos start
    let (name, rest) ←
      if name = "export" ∧ rest.head? ≠ some '=' then do
        let (name, pos, rest) ← key line pos rest
        let rest ← equals line pos rest
        pure (name, rest)
      else do
        let rest ← equals line pos rest
        pure (name, rest)
    let text := rest.dropWhile Text.isBlank
    if text = [] ∨ text.head? = some '#' then pure (some (name, ""))
    else
      let v ← value e text .plain false 0 [] text
      pure (some (name, String.ofList v))

/-- Adds the variables of the lines one after the other. -/
def load (lines : List (Except (Option Fault) (List Char))) (e : Environment) :
    Except (Option Fault) Environment :=
  lines.foldlM (fun e line => do
    let line ← line
    match ← (variable_ e line).mapError some with
    | some (name, v) => pure (e.offer name v)
    | none => pure e) e

/-- Adds the variables of a file. A mark of the byte order in front is dropped. The fault is absent
where the file is no text. -/
def apply (bytes : ByteArray) (e : Environment) : Except (Option Fault) Environment :=
  let glyphs := match Text.glyphsOfBytes bytes with
    | some '\uFEFF' :: rest => rest
    | glyphs => glyphs
  load (joinLines .complete [] (rawLines glyphs)) e

end EnvironmentFile

end Ingress.Config
