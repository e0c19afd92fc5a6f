import Ingress.Json.Printer
import Ingress.Json.Token

/-!
# Written strings and numbers

Whatever characters a string has, its written form is one token, which holds the same string. An
integer that fits 64 bits is one token as well, as long as nothing stands behind it that could
belong to a number.
-/

namespace Ingress.Json

open Text (Glyph)

namespace Piece

theorem characters?_units {n : Nat} (low : n < 0xD800) (pieces : List Piece) :
    characters? (.units n :: pieces) = (characters? pieces).map (Char.ofNat n :: ·) := by
  have notHigh : isHigh n = false := by simp [isHigh]; omega
  have notLow : isLow n = false := by simp [isLow]; omega
  cases pieces with
  | nil => simp [characters?, notHigh, notLow]
  | cons p rest => cases p <;> simp [characters?, notHigh, notLow]

/-- In a string, some written characters are one piece, and it stands for a given character whatever
comes after it. -/
def StandsFor (written : List Char) (c : Char) : Prop :=
  ∃ p, (∀ gs, scan? (written.map some ++ gs) =
      (scan? gs).map fun (pieces, rest) => (p :: pieces, rest)) ∧
    ∀ pieces, characters? (p :: pieces) = (characters? pieces).map (c :: ·)

theorem standsFor_letter {e c : Char} (letter : simpleEscape? e = some c) :
    StandsFor ['\\', e] c := by
  have other : e ≠ 'u' := by
    rintro rfl
    simp [simpleEscape?] at letter
  refine ⟨.glyph (some c), fun gs => ?_, fun _ => rfl⟩
  rw [List.map_cons, List.map_cons, List.map_nil, List.cons_append, List.cons_append, scan?]
  · rw [letter, List.nil_append]
    cases scan? gs <;> rfl
  · exact fun _ _ _ _ _ _ same => other same

theorem hexValue?_hexDigit : ∀ n < 16, Text.hexValue? (hexDigit n) = some n := by decide

theorem hex4?_control {n : Nat} (control : n < 0x20) :
    hex4? (some '0') (some '0') (some (hexDigit (n / 16))) (some (hexDigit (n % 16))) = some n := by
  have high := hexValue?_hexDigit (n / 16) (by omega)
  have low := hexValue?_hexDigit (n % 16) (by omega)
  have zero : Text.hexValue? '0' = some 0 := rfl
  simp [hex4?, high, low, zero]
  omega

theorem standsFor_code {c : Char} (control : c.toNat < 0x20) :
    StandsFor ['\\', 'u', '0', '0', hexDigit (c.toNat / 16), hexDigit (c.toNat % 16)] c := by
  refine ⟨.units c.toNat, fun gs => ?_, fun pieces => ?_⟩
  · simp only [List.map_cons, List.map_nil, List.cons_append, List.nil_append, scan?,
      hex4?_control control]
    cases scan? gs <;> rfl
  · rw [characters?_units (by omega), Char.ofNat_toNat]

theorem standsFor_self {c : Char} (quote : c ≠ '"') (backslash : c ≠ '\\')
    (shown : ¬ c.toNat < 0x20) : StandsFor [c] c := by
  refine ⟨.glyph (some c), fun gs => ?_, fun _ => rfl⟩
  rw [List.map_singleton, List.singleton_append, scan?]
  · exact if_neg (not_or_intro backslash shown)
  · exact quote
  · exact fun _ _ _ _ _ _ same => backslash same
  · exact fun _ _ _ same => backslash same

theorem standsFor_escape (c : Char) : StandsFor (escape c) c := by
  fun_cases escape c with
  | case8 _ _ _ _ _ _ _ control => exact standsFor_code control
  | case9 quote backslash _ _ _ _ _ shown => exact standsFor_self quote backslash shown
  | _ =>
    subst c
    exact standsFor_letter rfl

/-- The characters of a string are read back up to its closing quote. -/
theorem scan?_escaped (cs : List Char) (rest : List Glyph) :
    ∃ pieces, scan? ((cs.flatMap escape).map some ++ some '"' :: rest) = some (pieces, rest) ∧
      characters? pieces = some cs := by
  induction cs with
  | nil => exact ⟨[], rfl, rfl⟩
  | cons c cs ih =>
    obtain ⟨pieces, scanned, same⟩ := ih
    obtain ⟨p, one, stands⟩ := standsFor_escape c
    refine ⟨p :: pieces, ?_, ?_⟩
    · rw [List.flatMap_cons, List.map_append, List.append_assoc, one, scanned]
      rfl
    · rw [stands, same]
      rfl

end Piece

/-- Nothing of a number stands at the beginning. -/
def EndsNumber (gs : List Glyph) : Prop :=
  ∀ c rest, gs = some c :: rest → c.isDigit = false ∧ c ≠ '.' ∧ c ≠ 'e' ∧ c ≠ 'E'

theorem splitDigits_append {digits : List Char} (all : ∀ c ∈ digits, c.isDigit) {gs : List Glyph}
    (ends : EndsNumber gs) : splitDigits (digits.map some ++ gs) = (digits, gs) := by
  induction digits with
  | nil =>
    fun_cases splitDigits gs with
    | case1 c rest digit => simp [(ends c rest rfl).1] at digit
    | case2 => rfl
    | case3 => rfl
  | cons c digits ih =>
    obtain ⟨digit, all⟩ := List.forall_mem_cons.1 all
    simp [splitDigits, digit, ih all]

namespace Literal

theorem scanFraction?_of_endsNumber {gs : List Glyph} (ends : EndsNumber gs) :
    scanFraction? gs = some ([], gs) := by
  unfold scanFraction?
  split
  · exact absurd rfl (ends _ _ rfl).2.1
  · rfl

theorem scanExponent?_of_endsNumber {gs : List Glyph} (ends : EndsNumber gs) :
    scanExponent? gs = some (none, gs) := by
  unfold scanExponent?
  split
  · obtain ⟨-, -, small, capital⟩ := ends _ _ rfl
    exact if_neg (not_or_intro small capital)
  · rfl

theorem scan?_digits {digits : List Char} (all : ∀ c ∈ digits, c.isDigit) (nonempty : digits ≠ [])
    (first : digits.head? = some '0' → digits.length = 1) (negative : Bool) {gs : List Glyph}
    (ends : EndsNumber gs) :
    scan? negative (digits.map some ++ gs) = some (⟨negative, digits, [], none⟩, gs) := by
  have plain : ¬ (digits = [] ∨ (digits.head? = some '0' ∧ digits.length ≠ 1)) := by
    rintro (empty | ⟨zero, more⟩)
    · exact nonempty empty
    · exact more (first zero)
  simp [scan?, splitDigits_append all ends, plain, scanFraction?_of_endsNumber ends,
    scanExponent?_of_endsNumber ends]

end Literal

/-- A numeral does not begin with a zero, unless it is the zero. -/
theorem head?_toDigits {n : Nat} (positive : n ≠ 0) : (Nat.toDigits 10 n).head? ≠ some '0' := by
  induction n using Nat.strongRecOn with
  | _ n ih =>
    by_cases small : n < 10
    · have digit : ∀ n < 10, n ≠ 0 → n.digitChar ≠ '0' := by decide
      simpa [Nat.toDigits_of_lt_base small] using digit n small positive
    · rw [Nat.toDigits_of_base_le (by decide) (by omega), List.head?_append,
        Option.or_of_isSome (List.isSome_head?.2 Nat.toDigits_ne_nil)]
      exact ih (n / 10) (by omega) (by omega)

theorem numeral_toDigits (n : Nat) : Text.numeral (Nat.toDigits 10 n) = n := by
  have value := Nat.ofDigitChars_ten_toDigits (n := n)
  rwa [Nat.ofDigitChars_eq_foldl] at value

/-- The number is an integer that fits 64 bits, signed or unsigned. -/
def Number.IsExact : Number → Prop
  | .int i => -(maxSigned + 1 : Int) ≤ i ∧ i ≤ maxUnsigned
  | .float _ => False

namespace Token

theorem all_cons {c : Char} {t : Token} {gs rest : List Glyph} (shown : isSpace c = false)
    (scanned : scan c gs = (t, rest)) : all (some c :: gs) = t :: all rest := by
  rw [all, shown, scanned]
  rfl

/-- A written string is one token. -/
theorem all_quote (s : String) (gs : List Glyph) :
    all (Text.glyphs (quote s) ++ gs) = .text (some s) :: all gs := by
  obtain ⟨pieces, scanned, same⟩ := Piece.scan?_escaped s.toList gs
  have written : Text.glyphs (quote s) ++ gs =
      some '"' :: ((s.toList.flatMap escape).map some ++ some '"' :: gs) := by
    simp [Text.glyphs, quote]
  have whole : scan '"' ((s.toList.flatMap escape).map some ++ some '"' :: gs) =
      (.text (some s), gs) := by
    change ofQuoted _ = _
    rw [ofQuoted, scanned]
    simp [same]
  rw [written, all_cons rfl whole]

/-- A digit begins the number that it stands in. -/
theorem scan_digit {c : Char} (digit : c.isDigit) (gs : List Glyph) :
    scan c gs = ofDigits false (some c :: gs) := by
  fun_cases scan c gs <;> simp_all

theorem isSpace_of_isDigit {c : Char} (digit : c.isDigit) : isSpace c = false := by
  rw [Bool.eq_false_iff]
  intro space
  simp only [isSpace, Bool.or_eq_true, decide_eq_true_eq] at space
  rcases space with ((rfl | rfl) | rfl) | rfl <;> simp at digit

theorem ofDigits_toDigits (negative : Bool) (n : Nat) {gs : List Glyph} (ends : EndsNumber gs) :
    ofDigits negative ((Nat.toDigits 10 n).map some ++ gs) =
      (.number (Literal.toNumber? ⟨negative, Nat.toDigits 10 n, [], none⟩), gs) := by
  have digits : ∀ c ∈ Nat.toDigits 10 n, c.isDigit := fun c member =>
    Nat.isDigit_of_mem_toDigits (by decide) (by decide) member
  have first : (Nat.toDigits 10 n).head? = some '0' → (Nat.toDigits 10 n).length = 1 := by
    intro zero
    by_cases h : n = 0
    · rw [h]
      rfl
    · exact absurd zero (head?_toDigits h)
  rw [ofDigits, Literal.scan?_digits digits Nat.toDigits_ne_nil first negative ends]

theorem all_toDigits (n : Nat) {gs : List Glyph} (ends : EndsNumber gs) :
    all ((Nat.toDigits 10 n).map some ++ gs) =
      .number (Literal.toNumber? ⟨false, Nat.toDigits 10 n, [], none⟩) :: all gs := by
  have scanned := ofDigits_toDigits false n ends
  cases numeral : Nat.toDigits 10 n with
  | nil => exact absurd numeral Nat.toDigits_ne_nil
  | cons c digits =>
    have member : c ∈ Nat.toDigits 10 n := numeral ▸ List.mem_cons_self
    have digit : c.isDigit := Nat.isDigit_of_mem_toDigits (by decide) (by decide) member
    rw [numeral] at scanned
    exact all_cons (isSpace_of_isDigit digit) ((scan_digit digit _).trans scanned)

/-- A written integer that fits 64 bits is one token. -/
theorem all_number {n : Number} (exact : n.IsExact) {gs : List Glyph} (ends : EndsNumber gs) :
    all (Text.glyphs n.write ++ gs) = .number (some n) :: all gs := by
  match n, exact with
  | .int (.ofNat n), ⟨_, fits⟩ =>
    have fits : n ≤ Number.maxUnsigned := Int.ofNat_le.1 fits
    have value : Literal.toNumber? ⟨false, Nat.toDigits 10 n, [], none⟩ = some (.int n) := by
      simp [Literal.toNumber?, numeral_toDigits, fits]
    have written : Text.glyphs (Number.write (.int (.ofNat n))) = (Nat.toDigits 10 n).map some := by
      rw [Text.glyphs, ← Nat.toList_repr]
      rfl
    rw [written, all_toDigits n ends, value]
    rfl
  | .int (.negSucc n), ⟨fits, _⟩ =>
    have fits : n + 1 ≤ Number.maxSigned + 1 := by omega
    have value : Literal.toNumber? ⟨true, Nat.toDigits 10 (n + 1), [], none⟩ =
        some (.int (.negSucc n)) := by
      simp [Literal.toNumber?, numeral_toDigits, fits, Int.negSucc_eq]
    have written : Text.glyphs (Number.write (.int (.negSucc n))) =
        some '-' :: (Nat.toDigits 10 (n + 1)).map some := by
      rw [Text.glyphs, ← Nat.toList_repr, Number.write]
      change ("-" ++ (n + 1).repr).toList.map some = _
      simp
    have scanned := ofDigits_toDigits true (n + 1) ends
    rw [value] at scanned
    rw [written]
    exact all_cons (c := '-') rfl scanned

end Token

end Ingress.Json
