import Warehouse.Text.Unshown

/-!
Texts shown between double quotes, and lists of them between brackets. What could be mistaken inside
the quotes is escaped: quotes, backslashes, line ends, and every character that does not show as
itself, by its number.
-/

namespace Warehouse.Text

/-- A number in lower-case hexadecimal digits, without leading zeros. -/
def hexDigits (n : Nat) : List Char := Nat.toDigits 16 n

/-- Whether a character does not show as itself. -/
def isUnshown (c : Char) : Bool :=
  let n := c.toNat
  if n < 0x80 then n < 0x20 || n == 0x7F
  else unshownRanges.any fun (first, last) => first ≤ n && n ≤ last

/-- A character as it stands between the quotes. -/
def shownChar (c : Char) : List Char :=
  match c.toNat with
  | 0 => ['\\', '0']
  | 9 => ['\\', 't']
  | 10 => ['\\', 'n']
  | 13 => ['\\', 'r']
  | 0x22 => ['\\', '\x22']
  | 0x5C => ['\\', '\\']
  | n => if isUnshown c then ['\\', 'u', '\x7b'] ++ hexDigits n ++ ['\x7d'] else [c]

/-- The text between quotes. -/
def shown (s : String) : String :=
  "\"" ++ String.ofList (s.toList.flatMap shownChar) ++ "\""

/-- The texts between quotes, separated by commas, between brackets. -/
def shownList (items : List String) : String :=
  "[" ++ String.intercalate ", " (items.map shown) ++ "]"

end Warehouse.Text
