/-!
White space and trimming. A character is blank when the Unicode standard gives it the property
`White_Space`; trimming removes blanks of every kind, not only the ASCII ones.
-/

namespace Warehouse.Text

/-- Whether the character has the Unicode property `White_Space`. -/
def isBlank (c : Char) : Bool :=
  let n := c.toNat
  (9 ≤ n && n ≤ 13) || n == 0x20 || n == 0x85 || n == 0xA0 || n == 0x1680 ||
    (0x2000 ≤ n && n ≤ 0x200A) || n == 0x2028 || n == 0x2029 || n == 0x202F || n == 0x205F ||
    n == 0x3000

/-- The text from its first character that the test refuses. -/
def dropStart (test : Char → Bool) (cs : List Char) : List Char := cs.dropWhile test

/-- The text up to its last character that the test refuses. -/
def dropEnd (test : Char → Bool) (cs : List Char) : List Char :=
  (cs.reverse.dropWhile test).reverse

/-- The text without the blanks at its two ends. -/
def trimChars (cs : List Char) : List Char := dropEnd isBlank (dropStart isBlank cs)

/-- The text without the blanks at its two ends. -/
def trim (s : String) : String := String.ofList (trimChars s.toList)

end Warehouse.Text
