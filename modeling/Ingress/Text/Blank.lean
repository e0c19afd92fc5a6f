/-!
# Blanks

The characters of the Unicode property `White_Space`, and trimming by them.
-/

namespace Ingress.Text

/-- A character of the Unicode property `White_Space`. -/
def isBlank (c : Char) : Bool :=
  let n := c.toNat
  (0x09 ≤ n && n ≤ 0x0D) || n == 0x20 || n == 0x85 || n == 0xA0 || n == 0x1680
    || (0x2000 ≤ n && n ≤ 0x200A) || n == 0x2028 || n == 0x2029 || n == 0x202F
    || n == 0x205F || n == 0x3000

/-- The characters without the blanks on both sides. -/
def trimBlanks (cs : List Char) : List Char :=
  ((cs.dropWhile isBlank).reverse.dropWhile isBlank).reverse

/-- The text without the blanks on both sides. -/
def trim (s : String) : String := String.ofList (trimBlanks s.toList)

end Ingress.Text
