import Warehouse.Text.Blank
import Warehouse.Text.Replace

/-!
Text inside statements: the text of an SQL literal, a statement without what ends it, and the source
that a statement reads from.
-/

namespace Warehouse

namespace Statement

/-- A text as it stands between the quotes of an SQL literal: trimmed, its quotes doubled. -/
def escapeChars (cs : List Char) : List Char := Text.doubleQuotes (Text.trimChars cs)

/-- A text as it stands between the quotes of an SQL literal: trimmed, its quotes doubled. -/
def escape (text : String) : String := String.ofList (escapeChars text.toList)

/-- The SQL literal of a text. -/
def literal (text : String) : String := "'" ++ escape text ++ "'"

/-- A statement without the blanks around it and the semicolons at its end. -/
def bareChars (cs : List Char) : List Char :=
  Text.dropEnd Text.isBlank (Text.dropEnd (· == ';') (Text.trimChars cs))

/-- A statement without the blanks around it and the semicolons at its end. -/
def bare (sql : String) : String := String.ofList (bareChars sql.toList)

end Statement

/-- Where a statement takes its rows from. -/
inductive Source where
  | table (name : String)
  | select (sql : String)
  deriving DecidableEq, Repr

/-- The source as it follows `FROM`; a select stands in parentheses, and behind it what names its rows. -/
def Source.text (rowsName : String) : Source → String
  | .table name => Text.trim name
  | .select sql => "(" ++ Statement.bare sql ++ ")" ++ rowsName

end Warehouse
