import Warehouse.Statement.Insert
import Warehouse.Statement.Query

/-!
Statements that remove personal data from a partition. The rows are updated in place; Hive, which cannot
do that, overwrites the partition with what is left of its rows.
-/

namespace Warehouse

/-- A statement that assigns to columns. -/
structure Update where
  target : String
  assignments : List (String × String)
  condition : String := ""
  ending : String := ""
  deriving DecidableEq, Repr

/-- The text of the statement. -/
def Update.text (u : Update) : String :=
  "UPDATE " ++ u.target ++ " SET " ++
    String.intercalate ", " (u.assignments.map fun (column, value) => column ++ " = " ++ value) ++
    whereClause u.condition ++ u.ending

namespace Table

/-- The columns that are no partitions and have a rule that acts on deletion. -/
def personalColumns (t : Table) : List BoundColumn :=
  (t.select false .all).filter (·.hasDeleteRule)

/-- The update that removes personal data from the partition in scope. -/
def anonymisation (t : Table) (scope : Scope) : Update where
  target := t.reference scope.suffix
  assignments := t.personalColumns.map fun c => (c.quotedName, c.deleteValue)
  condition := t.scopedCondition scope " AND "
  ending := t.dialect.terminator

/-- The item of a column in a select that removes personal data. -/
def anonymousItem (c : BoundColumn) : String :=
  if c.hasDeleteRule then c.setter c.deleteValue else c.quotedName

/-- The select of the partition in scope without personal data; partitions without a value come last. -/
def anonymousQuery (t : Table) (scope : Scope) : Query where
  items := (t.select false .all).map anonymousItem ++
    (t.partitions.filter fun p => p.declared.currentValue?.isNone).map (·.quotedName)
  source := t.reference scope.suffix
  condition := t.scopedCondition scope " AND "

/-- The statement that removes personal data from the partition in scope, if there is any. -/
def anonymisePartition (t : Table) (scope : Scope) : Option String :=
  if t.personalColumns.isEmpty then none
  else
    match t.dialect with
    | .hive => some (t.overwrite (t.anonymousQuery scope).text scope.suffix)
    | _ => some (t.anonymisation scope).text

end Table

end Warehouse
