import Warehouse.Text.Replace

/-!
The plain form of a partition value, fit for a table name or a storage path. A value is an SQL
expression such as `DATE('{{ ds }}')`: the call around it is taken off, and, where asked, its quotes
and the dashes that a scheduler would fill in for a date.
-/

namespace Warehouse.PartitionValue

open Text

/-- The argument of the last call in the text, when the text is one line that a call ends. -/
def argument? (cs : List Char) : Option (List Char) :=
  match cs.reverse with
  | ')' :: before =>
    if '\n' ∈ cs then none
    else if '(' ∈ before then some (before.takeWhile (· != '(')).reverse
    else none
  | _ => none

/-- The text without the call around it, if there is one. -/
def uncall (cs : List Char) : List Char := (argument? cs).getD cs

/-- The macro of this name as a scheduler reads it, between double braces. -/
def schedulerMacro (name : List Char) : List Char :=
  ['\x7b', '\x7b', ' '] ++ name ++ [' ', '\x7d', '\x7d']

/-- The text with the macro of one name exchanged for the macro of another. -/
def exchangeMacro (old new : List Char) (cs : List Char) : List Char :=
  replacePhrase '\x7b' ('\x7b' :: ' ' :: (old ++ [' ', '\x7d', '\x7d'])) (schedulerMacro new) cs

/-- The text with the dashed dates of the scheduler replaced by those without dashes. -/
def undash (cs : List Char) : List Char :=
  exchangeMacro "ts".toList "ts_nodash".toList (exchangeMacro "ds".toList "ds_nodash".toList cs)

/-- The plain form of a value, its quotes and its dashes kept only where asked. -/
def plainChars (quoted dashed : Bool) (cs : List Char) : List Char :=
  let bare := uncall cs
  let unquoted := if quoted then bare else replaceChar '\x27' [] bare
  if dashed then unquoted else undash unquoted

/-- The plain form of a value, its quotes and its dashes kept only where asked. -/
def plain (quoted dashed : Bool) (value : String) : String :=
  String.ofList (plainChars quoted dashed value.toList)

end Warehouse.PartitionValue
