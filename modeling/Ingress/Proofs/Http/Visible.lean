import Mathlib.Tactic.Common
import Ingress.Http.Text

/-!
# Values that show

A header value of visible characters, spaces and tabs is text as it stands: its bytes are the bytes
of that text, and the text is a header value again.
-/

namespace Ingress.Http

theorem mem_loop_iff {bytes : ByteArray} {b : UInt8} (i : Nat) (before : List UInt8) :
    b ∈ ByteArray.toList.loop bytes i before ↔
      b ∈ before ∨ ∃ j, i ≤ j ∧ bytes.data[j]? = some b := by
  fun_induction ByteArray.toList.loop bytes i before with
  | case1 i before inside ih =>
    have here : bytes.data[i]? = some (bytes.get! i) := by
      rw [Array.getElem?_eq_getElem inside]
      exact congrArg some (getElem!_pos bytes.data i inside).symm
    rw [ih, List.mem_cons]
    constructor
    · rintro ((rfl | old) | ⟨j, beyond, there⟩)
      · exact .inr ⟨i, Nat.le_refl i, here⟩
      · exact .inl old
      · exact .inr ⟨j, Nat.le_of_succ_le beyond, there⟩
    · rintro (old | ⟨j, from_, there⟩)
      · exact .inl (.inr old)
      · rcases Nat.eq_or_lt_of_le from_ with rfl | beyond
        · exact .inl (.inl (Option.some.inj (there.symm.trans here)))
        · exact .inr ⟨j, beyond, there⟩
  | case2 i before outside =>
    rw [List.mem_reverse]
    refine (or_iff_left ?_).symm
    rintro ⟨j, from_, there⟩
    exact outside (Nat.lt_of_le_of_lt from_ (Array.getElem?_eq_some_iff.1 there).1)

theorem mem_toList_iff {bytes : ByteArray} {b : UInt8} : b ∈ bytes.toList ↔ b ∈ bytes.data := by
  rw [ByteArray.toList, mem_loop_iff, Array.mem_iff_getElem?]
  simp

/-- Every byte is a visible ASCII character, a space or a tab. -/
def Shows (value : ByteArray) : Prop := ∀ b ∈ value.data, b = 9 ∨ 32 ≤ b ∧ b ≤ 126

theorem shows_iff {value : ByteArray} : Shows value ↔ value.toList.all isVisibleByte := by
  have each (b : UInt8) : isVisibleByte b ↔ b = 9 ∨ 32 ≤ b ∧ b ≤ 126 := by
    have last : b < 127 ↔ b ≤ 126 := Nat.lt_succ_iff
    simp [isVisibleByte, last, or_comm]
  simp only [Shows, List.all_eq_true, mem_toList_iff, each]

theorem Shows.ascii {value : ByteArray} (shown : Shows value) : ∀ b ∈ value.data, b < 128 := by
  intro b member
  rcases shown b member with rfl | ⟨-, most⟩
  · decide
  · exact Nat.lt_of_le_of_lt most (by decide)

theorem utf8EncodeChar_ofUInt8 {b : UInt8} (ascii : b < 128) :
    String.utf8EncodeChar (Char.ofUInt8 b) = [b] := by
  have small : (Char.ofUInt8 b).utf8Size = 1 := by
    rw [Char.utf8Size_eq_one_iff]
    exact Nat.le_of_lt_succ ascii
  rw [String.utf8EncodeChar_eq_singleton small]
  exact congrArg (fun b => [b]) (UInt8.toUInt8_toUInt32 b)

/-- Bytes below the first that begins a longer character are text. -/
theorem isValidUTF8_of_ascii {bytes : ByteArray} (ascii : ∀ b ∈ bytes.data, b < 128) :
    bytes.IsValidUTF8 := by
  have each : ∀ b ∈ bytes.data.toList, String.utf8EncodeChar (Char.ofUInt8 b) = [b] :=
    fun b member => utf8EncodeChar_ofUInt8 (ascii b (Array.mem_toList_iff.1 member))
  refine .intro (bytes.data.toList.map Char.ofUInt8) (ByteArray.ext ?_)
  rw [List.utf8Encode, List.data_toByteArray, List.flatMap_map, List.flatMap_def,
    List.map_congr_left each, ← List.flatMap_def, List.flatMap_singleton', Array.toArray_toList]

theorem visibleText?_eq_some_iff {value : ByteArray} {text : String} :
    visibleText? value = some text ↔ Shows value ∧ text.toUTF8 = value := by
  unfold visibleText?
  split
  · next shown =>
    rw [← shows_iff] at shown
    rw [String.fromUTF8?, dif_pos (isValidUTF8_of_ascii shown.ascii), and_iff_right shown]
    constructor
    · rintro ⟨⟩
      rfl
    · rintro rfl
      rfl
  · next hidden => simp [shows_iff, hidden]

theorem visibleText?_eq_none_iff {value : ByteArray} : visibleText? value = none ↔ ¬ Shows value := by
  rw [Option.eq_none_iff_forall_ne_some]
  simp only [ne_eq, visibleText?_eq_some_iff, not_and]
  constructor
  · intro unread shown
    exact unread (String.fromUTF8 value (isValidUTF8_of_ascii shown.ascii)) shown rfl
  · intro hidden text shown
    exact absurd shown hidden

/-- A text that shows is a header value. -/
theorem headerValue?_of_shows {text : String} (shown : Shows text.toUTF8) :
    headerValue? text = some text.toUTF8 := by
  rw [headerValue?]
  refine if_pos (List.all_eq_true.2 fun b member => ?_)
  rcases shown b (mem_toList_iff.1 member) with rfl | ⟨least, most⟩
  · rfl
  · have : b ≠ 127 := by
      rintro rfl
      exact absurd most (by decide)
    simp [isValueByte, least, this]

/-- A character that is visible ASCII or a space. -/
def isPlain (c : Char) : Bool := ' ' ≤ c && c ≤ '~'

/-- A character of the texts that are generated as ids: a small hexadecimal digit or a hyphen. -/
def isIdChar (c : Char) : Bool := "0123456789abcdef-".toList.contains c

theorem isPlain_of_isIdChar {c : Char} (id : isIdChar c) : isPlain c := by
  have all : "0123456789abcdef-".toList.all isPlain := by decide
  exact List.all_eq_true.1 all c (List.contains_iff_mem.1 id)

/-- Plain characters show. -/
theorem shows_toUTF8 {text : String} (plain : text.toList.all isPlain) : Shows text.toUTF8 := by
  intro b member
  have encoded : text.toUTF8 = (text.toList.flatMap String.utf8EncodeChar).toByteArray :=
    String.utf8Encode_toList.symm
  rw [encoded, List.data_toByteArray, List.mem_toArray, List.mem_flatMap] at member
  obtain ⟨c, present, member⟩ := member
  obtain ⟨least, most⟩ : ' ' ≤ c ∧ c ≤ '~' := by
    simpa [isPlain] using List.all_eq_true.1 plain c present
  have least : 32 ≤ c.val.toNat := least
  have most : c.val.toNat ≤ 126 := most
  have small : c.utf8Size = 1 := Char.utf8Size_eq_one_iff.2 (Nat.le_succ_of_le most)
  rw [String.utf8EncodeChar_eq_singleton small, List.mem_singleton] at member
  have same : b.toNat = c.val.toNat := by
    rw [member, UInt32.toNat_toUInt8]
    omega
  refine .inr ⟨?_, ?_⟩
  · rw [UInt8.le_iff_toNat_le, same]
    exact least
  · rw [UInt8.le_iff_toNat_le, same]
    exact most

theorem shows_of_isIdChar {text : String} (generated : text.toList.all isIdChar) :
    Shows text.toUTF8 := by
  refine shows_toUTF8 (List.all_eq_true.2 fun c member => ?_)
  exact isPlain_of_isIdChar (List.all_eq_true.1 generated c member)

end Ingress.Http
