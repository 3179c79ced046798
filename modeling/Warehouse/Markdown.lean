import Warehouse.Table
import Warehouse.Text.Blank

/-!
Documentation of tables in Markdown: a section for each module, and in it one for each table with a line
for each documented column.
-/

namespace Warehouse.Markdown

/-- A documented module: its name, what it says of itself, and its tables. -/
structure Section where
  name : String
  description : Option String
  tables : List Table

/-- The text of a description, without the blanks around it. -/
def described (description : Option String) : String := (description.map Text.trim).getD ""

/-- The marks of a heading. -/
def heading (level : Nat) : String := String.ofList (List.replicate level '#')

/-- The cells of a column: its name, in bold for a partition, its type, what personal data it holds, and
its comment. -/
def cells (c : BoundColumn) : List String :=
  [if c.isPartition then "**" ++ c.name ++ "**" else c.name,
    "\x60" ++ c.typeText ++ "\x60",
    c.declared.privacy.name.getD "",
    c.comment.getD ""]

/-- A line of a table. -/
def row (cells : List String) : String := "| " ++ String.intercalate " | " cells ++ " |"

/-- The two lines above the columns. -/
def header : List String :=
  [row ["Column name", "Column Type", "PII", "Description"],
    row ["-----------", "----", "---", "-----------"]]

/-- The columns that documentation shows. -/
def documentedColumns (t : Table) : List BoundColumn := t.columns.filter (·.declared.isDocumented)

/-- The lines of a table's columns under their header. -/
def columnLines (t : Table) : List String :=
  header ++ (documentedColumns t).map fun c => row (cells c)

/-- The section of a table. -/
def table (t : Table) (mark : String) : String :=
  mark ++ " " ++ t.fullName false false "" ++ "\n" ++ described t.description ++ "\n\n" ++
    String.intercalate "\n" (columnLines t)

/-- The section of a module, its tables one level below it. -/
def moduleSection (s : Section) (level : Nat) : String :=
  let top := heading (level + 1) ++ " " ++ s.name ++ "\n" ++ described s.description
  String.intercalate "\n" (top :: s.tables.map fun t => table t (heading (level + 2)))

/-- The documentation of several modules, under a common heading unless each stands for itself. -/
def document (sections : List Section) (separate : Bool) : String :=
  String.intercalate "\n"
    (if separate then sections.map (moduleSection · 0)
     else "# Schema documentation" :: sections.map (moduleSection · 1))

end Warehouse.Markdown
