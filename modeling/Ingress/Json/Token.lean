import Ingress.Json.Number
import Ingress.Text.Utf8

/-!
# Tokens of a document

A text is cut into tokens up to its first fault. A number out of range and a string that is not
Unicode are tokens too: only one who wants their value is refused.
-/

namespace Ingress.Json

open Text (Glyph)

/-- A token of a document. -/
inductive Token
  | openList
  | closeList
  | openRecord
  | closeRecord
  | comma
  | colon
  | null
  | bool (value : Bool)
  | number (value : Option Number)
  | text (value : Option String)
  | fault

/-- One element of a string between its quotes: a glyph, or the sixteen bits of an escape. -/
inductive Piece
  | glyph (g : Glyph)
  | units (code : Nat)

namespace Piece

/-- The first half of a character outside the basic plane. -/
def isHigh (n : Nat) : Bool := 0xD800 ≤ n && n < 0xDC00

/-- The second half of a character outside the basic plane. -/
def isLow (n : Nat) : Bool := 0xDC00 ≤ n && n < 0xE000

/-- The characters that the pieces stand for; halves count only in pairs. -/
def characters? : List Piece → Option (List Char)
  | [] => some []
  | .glyph (some c) :: rest => (characters? rest).map (c :: ·)
  | .glyph none :: _ => none
  | .units high :: .units low :: rest =>
    if isHigh high then
      if isLow low then
        (characters? rest).map
          (Char.ofNat (0x10000 + (high - 0xD800) * 0x400 + (low - 0xDC00)) :: ·)
      else none
    else if isLow high then none
    else (characters? (.units low :: rest)).map (Char.ofNat high :: ·)
  | .units n :: rest =>
    if isHigh n || isLow n then none else (characters? rest).map (Char.ofNat n :: ·)

/-- The character that an escape of one letter stands for. -/
def simpleEscape? : Char → Option Char
  | '"' => some '"'
  | '\\' => some '\\'
  | '/' => some '/'
  | 'b' => some '\x08'
  | 'f' => some '\x0c'
  | 'n' => some '\n'
  | 'r' => some '\r'
  | 't' => some '\t'
  | _ => none

/-- The value of four hexadecimal digits. -/
def hex4? (a b c d : Glyph) : Option Nat := do
  let a ← Text.hexValue? (← a)
  let b ← Text.hexValue? (← b)
  let c ← Text.hexValue? (← c)
  let d ← Text.hexValue? (← d)
  pure (((a * 16 + b) * 16 + c) * 16 + d)

/-- Reads a string after its opening quote, up to the closing one; `none` is a fault. -/
def scan? : List Glyph → Option (List Piece × List Glyph)
  | [] => none
  | some '"' :: rest => some ([], rest)
  | some '\\' :: some 'u' :: a :: b :: c :: d :: rest => do
    let n ← hex4? a b c d
    let (pieces, rest) ← scan? rest
    pure (.units n :: pieces, rest)
  | some '\\' :: some e :: rest => do
    let c ← simpleEscape? e
    let (pieces, rest) ← scan? rest
    pure (.glyph (some c) :: pieces, rest)
  | some c :: rest =>
    if c = '\\' ∨ c.toNat < 0x20 then none
    else (scan? rest).map fun (pieces, rest) => (.glyph (some c) :: pieces, rest)
  | none :: rest => (scan? rest).map fun (pieces, rest) => (.glyph none :: pieces, rest)

end Piece

/-- Splits the digits off the front. -/
def splitDigits : List Glyph → List Char × List Glyph
  | some c :: rest =>
    if c.isDigit then
      let (digits, rest) := splitDigits rest
      (c :: digits, rest)
    else ([], some c :: rest)
  | gs => ([], gs)

theorem splitDigits_length (gs : List Glyph) : (splitDigits gs).2.length ≤ gs.length := by
  fun_induction splitDigits gs with
  | case1 c rest h digits rest' heq ih => simp [heq] at ih; simp; omega
  | case2 => simp
  | case3 => simp

theorem scan?_length {gs : List Glyph} {pieces : List Piece} {rest : List Glyph}
    (h : Piece.scan? gs = some (pieces, rest)) : rest.length ≤ gs.length := by
  fun_induction Piece.scan? gs generalizing pieces rest with
  | case1 => simp at h
  | case2 => simp at h; simp [h.2]
  | case3 a b c d tail ih =>
    simp only [Option.bind_eq_bind, Option.bind_eq_some_iff, Option.pure_def,
      Option.some.injEq] at h
    obtain ⟨n, -, ⟨p, r⟩, hs, h⟩ := h
    have := ih hs
    simp_all
    omega
  | case4 e tail _ ih =>
    simp only [Option.bind_eq_bind, Option.bind_eq_some_iff, Option.pure_def,
      Option.some.injEq] at h
    obtain ⟨n, -, ⟨p, r⟩, hs, h⟩ := h
    have := ih hs
    simp_all
    omega
  | case5 => simp at h
  | case6 c tail _ _ _ _ ih =>
    simp only [Option.map_eq_some_iff] at h
    obtain ⟨⟨p, r⟩, hs, h⟩ := h
    have := ih hs
    simp_all
    omega
  | case7 tail ih =>
    simp only [Option.map_eq_some_iff] at h
    obtain ⟨⟨p, r⟩, hs, h⟩ := h
    have := ih hs
    simp_all
    omega

namespace Literal

/-- Reads the fraction of a number: a point and at least one digit, or nothing. -/
def scanFraction? : List Glyph → Option (List Char × List Glyph)
  | some '.' :: rest =>
    let (digits, rest) := splitDigits rest
    if digits = [] then none else some (digits, rest)
  | gs => some ([], gs)

/-- Splits the sign of an exponent off the front; the first part is true for a minus. -/
def splitSign : List Glyph → Bool × List Glyph
  | some '-' :: rest => (true, rest)
  | some '+' :: rest => (false, rest)
  | gs => (false, gs)

/-- Reads the exponent of a number: its mark, a sign and at least one digit, or nothing. -/
def scanExponent? : List Glyph → Option (Option (Bool × List Char) × List Glyph)
  | some c :: rest =>
    if c = 'e' ∨ c = 'E' then
      let (negative, rest) := splitSign rest
      let (digits, rest) := splitDigits rest
      if digits = [] then none else some (some (negative, digits), rest)
    else some (none, some c :: rest)
  | gs => some (none, gs)

/-- Reads a number without its sign. A zero in front of other digits is a fault. -/
def scan? (negative : Bool) (gs : List Glyph) : Option (Literal × List Glyph) := do
  let (whole, rest) := splitDigits gs
  if whole = [] ∨ (whole.head? = some '0' ∧ whole.length ≠ 1) then none
  else
    let (fraction, rest) ← scanFraction? rest
    let (exponent, rest) ← scanExponent? rest
    pure (⟨negative, whole, fraction, exponent⟩, rest)

theorem splitSign_length (gs : List Glyph) : (splitSign gs).2.length ≤ gs.length := by
  unfold splitSign
  split <;> simp

theorem scan?_rest_length {negative : Bool} {gs : List Glyph} {l : Literal} {rest : List Glyph}
    (h : scan? negative gs = some (l, rest)) : rest.length ≤ (splitDigits gs).2.length := by
  have hf : ∀ {gs digits rest}, scanFraction? gs = some (digits, rest) →
      rest.length ≤ gs.length := by
    intro gs digits rest h
    unfold scanFraction? at h
    split at h
    · rename_i tail
      have := splitDigits_length tail
      simp only [Option.ite_none_left_eq_some, Option.some.injEq, Prod.mk.injEq] at h
      simp [← h.2.2]
      omega
    · simp at h
      simp [h.2]
  have he : ∀ {gs e rest}, scanExponent? gs = some (e, rest) → rest.length ≤ gs.length := by
    intro gs e rest h
    unfold scanExponent? at h
    split at h
    · rename_i c tail
      split at h
      · have h1 := splitSign_length tail
        have h2 := splitDigits_length (splitSign tail).2
        simp only [Option.ite_none_left_eq_some, Option.some.injEq, Prod.mk.injEq] at h
        simp [← h.2.2]
        omega
      · simp at h
        simp [← h.2]
    · simp at h
      simp [h.2]
  unfold scan? at h
  simp only [Option.ite_none_left_eq_some, Option.bind_eq_bind, Option.bind_eq_some_iff,
    Option.pure_def, Option.some.injEq] at h
  obtain ⟨-, ⟨digits, r1⟩, h1, ⟨e, r2⟩, h2, h⟩ := h
  simp only [Prod.mk.injEq] at h
  exact h.2 ▸ Nat.le_trans (he h2) (hf h1)

theorem scan?_length {negative : Bool} {gs : List Glyph} {l : Literal} {rest : List Glyph}
    (h : scan? negative gs = some (l, rest)) : rest.length ≤ gs.length :=
  Nat.le_trans (scan?_rest_length h) (splitDigits_length gs)

end Literal

/-- The rest after a given word, if the glyphs begin with it. -/
def afterWord? : List Char → List Glyph → Option (List Glyph)
  | [], gs => some gs
  | c :: cs, some g :: gs => if c = g then afterWord? cs gs else none
  | _ :: _, _ => none

theorem afterWord?_length {word : List Char} {gs rest : List Glyph}
    (h : afterWord? word gs = some rest) : rest.length ≤ gs.length := by
  fun_induction afterWord? word gs with
  | case1 => simp at h; simp [h]
  | case2 c cs gs ih => have := ih h; simp; omega
  | case3 => simp at h
  | case4 => simp at h

/-- Blanks between tokens. -/
def isSpace (c : Char) : Bool := c = ' ' || c = '\n' || c = '\t' || c = '\r'

namespace Token

/-- A keyword without its first letter. -/
def ofWord (word : List Char) (t : Token) (rest : List Glyph) : Token × List Glyph :=
  match afterWord? word rest with
  | some rest => (t, rest)
  | none => (.fault, [])

/-- A number, its sign known already. -/
def ofDigits (negative : Bool) (gs : List Glyph) : Token × List Glyph :=
  match Literal.scan? negative gs with
  | some (l, rest) => (.number l.toNumber?, rest)
  | none => (.fault, [])

/-- A string after its opening quote. -/
def ofQuoted (gs : List Glyph) : Token × List Glyph :=
  match Piece.scan? gs with
  | some (pieces, rest) => (.text ((Piece.characters? pieces).map String.ofList), rest)
  | none => (.fault, [])

theorem ofWord_length (word : List Char) (t : Token) (gs : List Glyph) :
    (ofWord word t gs).2.length ≤ gs.length := by
  unfold ofWord
  split
  · exact afterWord?_length ‹_›
  · simp

theorem ofDigits_length (negative : Bool) (gs : List Glyph) :
    (ofDigits negative gs).2.length ≤ gs.length := by
  unfold ofDigits
  split
  · exact Literal.scan?_length ‹_›
  · simp

theorem ofQuoted_length (gs : List Glyph) : (ofQuoted gs).2.length ≤ gs.length := by
  unfold ofQuoted
  split
  · exact scan?_length ‹_›
  · simp

/-- The token that a character begins and what follows it; a fault leaves nothing. -/
def scan (c : Char) (rest : List Glyph) : Token × List Glyph :=
  if c = '[' then (.openList, rest)
  else if c = ']' then (.closeList, rest)
  else if c = '\x7b' then (.openRecord, rest)
  else if c = '\x7d' then (.closeRecord, rest)
  else if c = ',' then (.comma, rest)
  else if c = ':' then (.colon, rest)
  else if c = 'n' then ofWord ['u', 'l', 'l'] .null rest
  else if c = 't' then ofWord ['r', 'u', 'e'] (.bool true) rest
  else if c = 'f' then ofWord ['a', 'l', 's', 'e'] (.bool false) rest
  else if c = '"' then ofQuoted rest
  else if c = '-' then ofDigits true rest
  else if c.isDigit then ofDigits false (some c :: rest)
  else (.fault, [])

/-- A number takes its first digit at least. -/
private theorem ofDigits_cons_length {c : Char} (hc : c.isDigit) (rest : List Glyph) :
    (ofDigits false (some c :: rest)).2.length ≤ rest.length := by
  have h : (splitDigits (some c :: rest)).2.length ≤ rest.length := by
    have := splitDigits_length rest
    rw [splitDigits]
    simp [hc, this]
  unfold ofDigits
  split
  · rename_i l r heq
    have := Literal.scan?_rest_length heq
    simp only
    omega
  · simp

theorem scan_length (c : Char) (rest : List Glyph) : (scan c rest).2.length ≤ rest.length := by
  fun_cases scan c rest
  case case12 h => exact ofDigits_cons_length h rest
  all_goals first
    | exact Nat.le_refl _
    | exact ofWord_length _ _ _
    | exact ofQuoted_length _
    | exact ofDigits_length _ _
    | exact Nat.zero_le _

/-- All tokens of a text, the first fault being the last one. -/
def all : List Glyph → List Token
  | [] => []
  | none :: _ => [.fault]
  | some c :: rest =>
    if isSpace c then all rest
    else (scan c rest).1 :: all (scan c rest).2
termination_by gs => gs.length
decreasing_by
  · simp
  · have := scan_length c rest
    simp
    omega

end Token

end Ingress.Json
