import Ingress.Text.Lowercase

/-!
# What lower-casing keeps apart

A text in small letters is lower-cased to itself, and lower-casing leaves no capital behind. Only
the capital sigma looks at what stands around it, and it looks no further than the nearest character
that is not ignorable: where that is no letter, the text may be cut there and its parts lower-cased
by themselves.
-/

namespace Ingress.Text

/-! ### The tables -/

/-- The code point is one of the run. -/
def CaseRun.holds (r : CaseRun) (n : Nat) : Bool :=
  r.first ≤ n && n ≤ r.last && (n - r.first) % r.step == 0

theorem caseRun?_eq (n : Nat) : caseRun? n = smallRuns.find? fun r => r.holds n := rfl

/-- The small letter of the first capital of the run. -/
def CaseRun.low (r : CaseRun) : Nat := (r.first + r.shift).toNat

/-- The small letter of the last capital of the run. -/
def CaseRun.high (r : CaseRun) : Nat := (r.last + r.shift).toNat

/-- No small letter of the first run is a capital of the second: all of them lie on one side of it,
or every other code point is a capital and the small letters are among those between. -/
def CaseRun.apart (r s : CaseRun) : Bool :=
  Nat.blt s.last r.low || Nat.blt r.high s.first ||
    (0 < r.low && (r.first == r.last || r.step % 2 == 0) && s.step % 2 == 0 &&
      (r.low + s.first) % 2 == 1)

/-- The capitals with a mapping of their own, the dotted I among them. -/
def capitals : List CaseRun := ⟨'İ'.toNat, 'İ'.toNat, 1, 0⟩ :: smallRuns

/-- A small letter is no capital, as far as the tables go. -/
theorem smallRuns_apart : (smallRuns.all fun r => capitals.all r.apart) = true := by
  decide +kernel

/-- All runs of capitals begin at the letter A or after it. -/
theorem smallRuns_first : (smallRuns.all fun r => Nat.ble 'A'.toNat r.first) = true := by
  decide +kernel

theorem CaseRun.holds_iff {r : CaseRun} {n : Nat} :
    r.holds n = true ↔ r.first ≤ n ∧ n ≤ r.last ∧ (n - r.first) % r.step = 0 := by
  simp [CaseRun.holds, and_assoc]

theorem CaseRun.apart_iff {r s : CaseRun} :
    r.apart s = true ↔ s.last < r.low ∨ r.high < s.first ∨
      0 < r.low ∧ (r.first = r.last ∨ r.step % 2 = 0) ∧ s.step % 2 = 0 ∧
        (r.low + s.first) % 2 = 1 := by
  simp [CaseRun.apart, or_assoc, and_assoc]

/-- Members of a run with an even step have the parity of its first one. -/
theorem even_of_mod_step {n step : Nat} (even : step % 2 = 0) (whole : n % step = 0) :
    n % 2 = 0 := by
  obtain ⟨k, rfl⟩ := Nat.dvd_of_mod_eq_zero whole
  rw [Nat.mul_mod, even]
  simp

theorem CaseRun.not_holds_of_apart {r s : CaseRun} (apart : r.apart s = true) {n : Nat}
    (capital : r.holds n = true) : s.holds (n + r.shift).toNat = false := by
  rw [← Bool.not_eq_true]
  intro again
  obtain ⟨first, last, step⟩ := holds_iff.1 capital
  obtain ⟨first', last', step'⟩ := holds_iff.1 again
  rcases apart_iff.1 apart with below | above | ⟨positive, parity, even, odd⟩
  · unfold low at below
    omega
  · unfold high at above
    omega
  · have own : (n - r.first) % 2 = 0 := by
      rcases parity with single | even
      · omega
      · exact even_of_mod_step even step
    have others := even_of_mod_step even step'
    unfold low at positive odd
    omega

/-! ### Small letters -/

/-- A character that lower-casing leaves alone, wherever it stands. -/
def IsSmall (c : Char) : Prop := c ≠ 'Σ' ∧ smallLetters c = [c]

instance (c : Char) : Decidable (IsSmall c) := inferInstanceAs (Decidable (_ ∧ _))

theorem isSmall_of_all {cs : List Char} (all : cs.all (fun c => decide (IsSmall c)) = true) :
    ∀ c ∈ cs, IsSmall c :=
  fun c member => of_decide_eq_true (List.all_eq_true.1 all c member)

/-- What is in no run of capitals is left alone. -/
theorem isSmall_of_not_holds {c : Char} (none : ∀ r ∈ capitals, r.holds c.toNat = false) :
    IsSmall c := by
  obtain ⟨dotted, runs⟩ := List.forall_mem_cons.1 none
  have sigma : c ≠ 'Σ' := by
    rintro rfl
    have capital : smallRuns.any (·.holds 'Σ'.toNat) = true := by decide +kernel
    obtain ⟨r, member, holds⟩ := List.any_eq_true.1 capital
    rw [runs r member] at holds
    cases holds
  have undotted : c ≠ 'İ' := by
    rintro rfl
    cases dotted
  have outside : caseRun? c.toNat = Option.none := by
    refine List.find?_eq_none.2 fun r member => ?_
    simpa [CaseRun.holds] using runs r member
  refine ⟨sigma, ?_⟩
  rw [smallLetters, if_neg undotted, outside]

theorem isSmall_of_isDigit {c : Char} (digit : c.isDigit) : IsSmall c := by
  have bound : c.toNat ≤ '9'.toNat := by
    simp only [Char.isDigit, Bool.and_eq_true, decide_eq_true_eq] at digit
    exact digit.2
  refine isSmall_of_not_holds fun r member => ?_
  have first : 'A'.toNat ≤ r.first := by
    rcases List.mem_cons.1 member with rfl | member
    · decide
    · exact Nat.le_of_ble_eq_true (List.all_eq_true.1 smallRuns_first r member)
  rw [← Bool.not_eq_true, CaseRun.holds_iff]
  intro holds
  have := Nat.le_trans first (Nat.le_trans holds.1 bound)
  exact absurd this (by decide)

/-- The small form of a character is left alone in turn. -/
theorem isSmall_of_mem_smallLetters {c d : Char} (other : c ≠ 'Σ') (small : d ∈ smallLetters c) :
    IsSmall d := by
  by_cases dotted : c = 'İ'
  · subst dotted
    have both : ∀ d ∈ ['i', '\u0307'], IsSmall d := isSmall_of_all (by decide +kernel)
    exact both d small
  · rw [smallLetters, if_neg dotted] at small
    cases found : caseRun? c.toNat with
    | none =>
      rw [found] at small
      rw [List.mem_singleton.1 small]
      refine ⟨other, ?_⟩
      rw [smallLetters, if_neg dotted, found]
    | some r =>
      rw [found] at small
      rw [List.mem_singleton.1 small]
      rw [caseRun?_eq] at found
      have capital := List.find?_some found
      have member := List.mem_of_find?_eq_some found
      by_cases valid : ((c.toNat : Int) + r.shift).toNat.isValidChar
      · refine isSmall_of_not_holds fun s among => ?_
        have apart := List.all_eq_true.1 (List.all_eq_true.1 smallRuns_apart r member) s among
        rw [Char.ofNat, dif_pos valid]
        exact CaseRun.not_holds_of_apart apart capital
      · -- The tables map to characters only, but that need not be known here.
        rw [Char.ofNat, dif_neg valid]
        decide +kernel

/-! ### Lower-casing twice -/

theorem lowerAfter_eq_self {cs : List Char} (small : ∀ c ∈ cs, IsSmall c) (before : List Char) :
    lowerAfter before cs = cs := by
  induction cs generalizing before with
  | nil => rfl
  | cons c cs ih =>
    obtain ⟨⟨other, same⟩, rest⟩ := List.forall_mem_cons.1 small
    rw [lowerAfter, if_neg other, same, ih rest]
    rfl

theorem isSmall_of_mem_lowerAfter {cs : List Char} {before : List Char} {d : Char}
    (small : d ∈ lowerAfter before cs) : IsSmall d := by
  induction cs generalizing before with
  | nil => cases small
  | cons c cs ih =>
    rw [lowerAfter] at small
    rcases List.mem_append.1 small with here | later
    · by_cases sigma : c = 'Σ'
      · have both : ∀ d ∈ ['ς', 'σ'], IsSmall d := isSmall_of_all (by decide +kernel)
        refine both d ?_
        rw [if_pos sigma, List.mem_singleton] at here
        rw [here]
        split <;> simp
      · rw [if_neg sigma] at here
        exact isSmall_of_mem_smallLetters sigma here
    · exact ih later

theorem toList_lower (s : String) : (lower s).toList = lowerAfter [] s.toList :=
  String.toList_ofList

theorem lower_eq_self {s : String} (small : ∀ c ∈ s.toList, IsSmall c) : lower s = s := by
  rw [lower, lowerAfter_eq_self small, String.ofList_toList]

/-- Lower-casing leaves nothing to be lower-cased. -/
theorem lower_lower (s : String) : lower (lower s) = lower s := by
  refine lower_eq_self fun c member => ?_
  rw [toList_lower] at member
  exact isSmall_of_mem_lowerAfter member

/-! ### Lower-casing in parts -/

/-- Looking on, nothing is met beyond characters that meet no letter. -/
theorem meetsLetter_append {ds : List Char} (none : meetsLetter ds = false) (cs : List Char) :
    meetsLetter (cs ++ ds) = meetsLetter cs := by
  induction cs with
  | nil => exact none
  | cons c cs ih =>
    unfold meetsLetter at ih ⊢
    rw [List.cons_append, List.dropWhile_cons, List.dropWhile_cons]
    by_cases ignorable : isCaseIgnorable c
    · rw [if_pos ignorable, if_pos ignorable]
      exact ih
    · rw [if_neg ignorable, if_neg ignorable]

/-- What stands before, beyond characters that meet no letter, does not matter. -/
theorem lowerAfter_of_not_meetsLetter {before : List Char} (none : meetsLetter before = false)
    (near cs : List Char) : lowerAfter (near ++ before) cs = lowerAfter near cs := by
  induction cs generalizing near with
  | nil => rfl
  | cons c cs ih =>
    have next := ih (c :: near)
    rw [List.cons_append] at next
    simp only [lowerAfter, meetsLetter_append none, next]

/-- A text is lower-cased up to where it goes on without meeting a letter as if it ended there. -/
theorem lowerAfter_append {ds : List Char} (none : meetsLetter ds = false)
    (before cs : List Char) : lowerAfter before (cs ++ ds) =
      lowerAfter before cs ++ lowerAfter (cs.reverse ++ before) ds := by
  induction cs generalizing before with
  | nil => rfl
  | cons c cs ih =>
    simp only [List.cons_append, lowerAfter, meetsLetter_append none, ih, List.reverse_cons,
      List.append_assoc, List.nil_append]

theorem not_meetsLetter_blank (cs : List Char) : meetsLetter (' ' :: cs) = false := by
  have blank : isCaseIgnorable ' ' = false ∧ isCased ' ' = false := by decide +kernel
  simp [meetsLetter, blank]

theorem not_meetsLetter_colon (cs : List Char) : meetsLetter (':' :: ' ' :: cs) = false := by
  have colon : isCaseIgnorable ':' = true := by decide +kernel
  have same : meetsLetter (':' :: ' ' :: cs) = meetsLetter (' ' :: cs) := by
    simp [meetsLetter, colon]
  rw [same, not_meetsLetter_blank]

/-- A colon with a blank after it ends a word for good, whatever stands around it: the texts on both
sides are lower-cased by themselves. -/
theorem lower_append_colon (a b : String) :
    lower (a ++ ": " ++ b) = lower a ++ ": " ++ lower b := by
  have separator : ∀ c ∈ [':', ' '], IsSmall c := isSmall_of_all (by decide +kernel)
  have parts : lowerAfter [] (a.toList ++ ':' :: ' ' :: b.toList) =
      lowerAfter [] a.toList ++ ':' :: ' ' :: lowerAfter [] b.toList := by
    have apart := lowerAfter_of_not_meetsLetter (not_meetsLetter_blank (':' :: a.toList.reverse))
      [] b.toList
    rw [lowerAfter_append (not_meetsLetter_colon b.toList), List.append_nil]
    simp only [List.forall_mem_cons] at separator
    obtain ⟨⟨colonOther, colon⟩, ⟨blankOther, blank⟩, -⟩ := separator
    rw [lowerAfter, if_neg colonOther, colon, lowerAfter, if_neg blankOther, blank]
    rw [List.nil_append] at apart
    rw [apart]
    rfl
  apply String.toList_inj.1
  simpa [toList_lower] using parts

end Ingress.Text
