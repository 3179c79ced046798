import Warehouse.Statement.Literal
import Warehouse.Table

/-!
Statements that load a table. An insertion is data first: its target, in Hive the partition that it
fills, the columns that it lists and the items of its select. Hive gives partitions that have a value in
the `PARTITION` clause and not in the column list.
-/

namespace Warehouse

/-- An entry of a `PARTITION` clause: a partition that is given a value, or one left to the rows. -/
structure PartitionEntry where
  quotedName : String
  value : Option String
  deriving DecidableEq, Repr

/-- The text of the entry. -/
def PartitionEntry.text (e : PartitionEntry) : String :=
  match e.value with
  | some value => e.quotedName ++ " = " ++ value
  | none => e.quotedName

/-- The `PARTITION` clause behind the name of a table; without partitions there is none. -/
def partitionClause (entries : List PartitionEntry) : String :=
  if entries.isEmpty then ""
  else " PARTITION (" ++ String.intercalate ", " (entries.map (·.text)) ++ ")"

/-- A statement that inserts rows: the columns that it lists, and the items of its select. -/
structure Insertion where
  target : String
  partition : List PartitionEntry := []
  columns : List String
  items : List String
  source : String
  ending : String := ""
  deriving DecidableEq, Repr

/-- The text of the statement. -/
def Insertion.text (i : Insertion) : String :=
  "INSERT INTO " ++ i.target ++ partitionClause i.partition ++
    " (" ++ String.intercalate ", " i.columns ++ ")" ++
    " SELECT " ++ String.intercalate ", " i.items ++ " FROM " ++ i.source ++ i.ending

namespace Table

/-- The entries of the `PARTITION` clause: every partition, with its current value if it has one. -/
def partitionEntries (t : Table) : List PartitionEntry :=
  t.partitions.map fun p => ⟨p.quotedName, p.declared.currentValue?⟩

/-- Whether a column is fed by the rows: it is no partition with a value. -/
def isFedByRows (c : Column) : Bool := !c.isPartition || c.currentValue?.isNone

/-- The insertion into the columns that the filter lets through. -/
def insertion (t : Table) (source : Source) (filter : Filter) (suffix : String) : Insertion :=
  match t.dialect with
  | .hive =>
    let rows := filter.and (.custom isFedByRows)
    { target := t.reference suffix
      partition := t.partitionEntries
      columns := (t.select true rows).map (·.quotedName)
      items := t.loadValues true rows
      source := source.text " vw" }
  | d =>
    { target := t.reference suffix
      columns := (t.columnNames true filter).map d.vocabulary.quoteColumn
      items := t.loadValues true filter
      source := source.text " AS vw"
      ending := d.terminator }

/-- The statement that inserts rows from a source. -/
def insertInto (t : Table) (source : Source) (filter : Filter) (suffix : String) : String :=
  (t.insertion source filter suffix).text

/-- The statement that replaces the rows of the partition by those of a select. -/
def overwrite (t : Table) (select suffix : String) : String :=
  "INSERT OVERWRITE TABLE " ++ t.reference suffix ++ partitionClause t.partitionEntries ++ " " ++
    Statement.bare select

/-- The statement that replaces rows by those of a select. Only Hive has one. -/
def insertOverwrite (t : Table) (select suffix : String) : Except Problem String :=
  match t.dialect with
  | .hive => .ok (t.overwrite select suffix)
  | d => .error (.statementUnsupported "INSERT OVERWRITE" d.name)

end Table

end Warehouse
