import Warehouse.Statement.Literal
import Warehouse.Statement.Query

/-!
The select that merges an update into a partition: the rows of the update, and the existing rows that no
row of the update replaces.
-/

namespace Warehouse

/-- What to merge: the select of the update, and the keys by which its rows replace others. -/
structure UpsertOptions where
  update : String := ""
  primaryKeys : List String := []
  filter : Option Filter := none
  scope : Scope := {}
  transforms : Dict String := Dict.empty

/-- A select that merges an update into existing rows. -/
structure Upsert where
  update : String
  items : List String
  existing : String
  keyMatches : List String
  deriving DecidableEq, Repr

/-- The text of the statement. -/
def Upsert.text (u : Upsert) : String :=
  let items := String.intercalate ", " u.items
  "WITH incremental_update AS (" ++ u.update ++ ") SELECT " ++ items ++
    " FROM incremental_update UNION ALL SELECT " ++ items ++ " FROM (" ++ u.existing ++ ") AS d" ++
    (if u.keyMatches.isEmpty then ""
     else " WHERE NOT EXISTS (SELECT 1 FROM incremental_update AS u WHERE " ++
      String.intercalate " AND " u.keyMatches ++ ")")

namespace Table

/-- The columns that the merge is about: those asked for, or all but the partitions. -/
def upsertFilter (t : Table) (o : UpsertOptions) : Filter :=
  o.filter.getD (.except t.partitionNames)

/-- The merge of an update into the partition in scope. -/
def upsert (t : Table) (o : UpsertOptions) : Upsert where
  update := Statement.bare o.update
  items := t.loadValues true (t.upsertFilter o)
  existing := t.selectPartition { filter := t.upsertFilter o, transforms := o.transforms } o.scope
  keyMatches := (t.columns.filter fun c => o.primaryKeys.contains c.name).map fun c =>
    "u." ++ c.quotedName ++ " = d." ++ c.quotedName

/-- The select that merges an update into the partition in scope. -/
def upsertSelect (t : Table) (o : UpsertOptions) : String := (t.upsert o).text

end Table

end Warehouse
