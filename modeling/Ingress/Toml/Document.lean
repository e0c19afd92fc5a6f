import Ingress.Json.Decoder
import Ingress.Toml.Scalar
import Ingress.Toml.Table
import Ingress.Toml.Text

/-!
# TOML documents

A document is a list of lines: headers and keys with values. It is read into the same tree as other
documents; what breaks a rule of the format makes the whole text no document.
-/

namespace Ingress.Toml

open Json

/-- How deep lists and inline tables may be nested, and how many parts a key may have. -/
def maxDepth : Nat := 80

/-- Whether a key is short enough. -/
def shortKey (path : List String) : Option (List String) :=
  if path.length < maxDepth then some path else none

mutual

/-- A value, inside so many others. -/
def value : (fuel : Nat) → (depth : Nat) → List Char → Option (Reading × List Char)
  | 0, _, _ => none
  | fuel + 1, depth, cs =>
    match cs with
    | '"' :: _ | '\'' :: _ => (string? cs).map fun (s, rest) => (.text s, rest)
    | '[' :: rest =>
      if depth + 1 < maxDepth then do
        let (items, rest) ← items fuel (depth + 1) rest
        some (.list items, rest)
      else none
    | '\x7b' :: rest =>
      if depth + 1 < maxDepth then do
        let (table, rest) ← members fuel (depth + 1) .empty true (skipSpace rest)
        some (.record (readEntries table.entries), rest)
      else none
    | cs => do
      let (run, rest) := scalarRun cs
      let v ← scalar run
      some (v, rest)

/-- The rest of a list. -/
def items : (fuel : Nat) → (depth : Nat) → List Char → Option (List Reading × List Char)
  | 0, _, _ => none
  | fuel + 1, depth, cs =>
    match skipLines cs with
    | ']' :: rest => some ([], rest)
    | cs => do
      let (first, rest) ← value fuel depth cs
      match skipLines rest with
      | ',' :: rest => do
        let (others, rest) ← items fuel depth rest
        some (first :: others, rest)
      | ']' :: rest => some ([first], rest)
      | _ => none

/-- The rest of an inline table; only at its beginning it may end without a key. -/
def members : (fuel : Nat) → (depth : Nat) → Table → (first : Bool) → List Char →
    Option (Table × List Char)
  | 0, _, _, _, _ => none
  | fuel + 1, depth, t, first, cs =>
    match first, cs with
    | true, '\x7d' :: rest => some (t, rest)
    | _, cs => do
      let (path, rest) ← key (cs.length + 1) cs
      let path ← shortKey path
      match rest with
      | '=' :: rest =>
        let (v, rest) ← value fuel depth (skipSpace rest)
        let t ← t.add path v
        match skipSpace rest with
        | ',' :: rest => members fuel depth t false (skipSpace rest)
        | '\x7d' :: rest => some (t, rest)
        | _ => none
      | _ => none

end

/-- The characters of the next line, if nothing but a comment is left of this one. -/
def endLine (cs : List Char) : Option (List Char) :=
  match skipComment (skipSpace cs) with
  | [] => some []
  | rest => lineEnd? rest

/-- One line: what it adds to the document, and the characters of the next line. -/
def line (d : Draft) (cs : List Char) : Option (Draft × List Char) :=
  match skipSpace cs with
  | '[' :: '[' :: rest => do
    let (path, rest) ← key (rest.length + 1) rest
    let path ← shortKey path
    match rest with
    | ']' :: ']' :: rest => do
      let next ← endLine rest
      let d ← d.beginItem path
      some (d, next)
    | _ => none
  | '[' :: rest => do
    let (path, rest) ← key (rest.length + 1) rest
    let path ← shortKey path
    match rest with
    | ']' :: rest => do
      let next ← endLine rest
      let d ← d.beginTable path
      some (d, next)
    | _ => none
  | '#' :: _ | '\n' :: _ | '\r' :: _ | [] => (endLine cs).map (d, ·)
  | cs => do
    let (path, rest) ← key (cs.length + 1) cs
    let path ← shortKey path
    match rest with
    | '=' :: rest => do
      let (v, rest) ← value (rest.length + 1) 0 (skipSpace rest)
      let next ← endLine rest
      let d ← d.add path v
      some (d, next)
    | _ => none

/-- All lines. -/
def lines : (fuel : Nat) → Draft → List Char → Option Draft
  | _, d, [] => some d
  | 0, _, _ => none
  | fuel + 1, d, cs => do
    let (d, rest) ← line d cs
    lines fuel d rest

/-- The tree of a text, if it is a document. A mark of the byte order in front is dropped. -/
def ofText? (s : String) : Option Reading :=
  let cs := match s.toList with
    | '\uFEFF' :: rest => rest
    | cs => cs
  (lines (cs.length + 1) .empty cs).bind Draft.finish

/-- The words of a mismatch in a document of this format. -/
def wording : Wording := ⟨"unit value", Decimal.Layout.pointed.write⟩

/-- Reads a text as one value of a type. -/
def decodeText (d : Decoder α) (s : String) : Except Refusal α :=
  match ofText? s with
  | some r => d r
  | none => .error .malformed

end Ingress.Toml
