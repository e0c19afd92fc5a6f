/-!
# Bytes as characters

Bodies and header values are bytes that need not be text. Here they are read as characters, a byte
that belongs to no character standing for itself.
-/

namespace Ingress.Text

/-- One element of bytes read as text: a character, or `none` for a byte that belongs to none. -/
abbrev Glyph := Option Char

/-- The glyphs of a text are its characters. -/
def glyphs (s : String) : List Glyph := s.toList.map some

/-- The length of the encoded character that `b` may begin. -/
private def leadLength (b : UInt8) : Nat :=
  if b < 0x80 then 1 else if b < 0xC0 then 0 else if b < 0xE0 then 2 else if b < 0xF0 then 3
  else if b < 0xF8 then 4 else 0

/-- The character that the first bytes encode, and how many bytes it takes. -/
private def leadingChar? (bytes : List UInt8) : Option (Char × Nat) :=
  match bytes with
  | [] => none
  | b :: _ =>
    let n := leadLength b
    match String.fromUTF8? ⟨(bytes.take n).toArray⟩ with
    | some s => match s.toList with
      | [c] => some (c, n)
      | _ => none
    | none => none

/-- Reads bytes one by one; `skip` of them belong to the character read last. -/
private def scan : Nat → List UInt8 → List Glyph
  | _, [] => []
  | skip + 1, _ :: rest => scan skip rest
  | 0, b :: rest =>
    match leadingChar? (b :: rest) with
    | some (c, n) => some c :: scan (n - 1) rest
    | none => none :: scan 0 rest

/-- The glyphs of any bytes. -/
def glyphsOfBytes (bytes : ByteArray) : List Glyph :=
  match String.fromUTF8? bytes with
  | some s => glyphs s
  | none => scan 0 bytes.toList

end Ingress.Text
