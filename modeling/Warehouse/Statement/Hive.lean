import Warehouse.Table.Scope

/-!
Statements that only Hive has. A table qualifies by the name of its dialect.
-/

namespace Warehouse.Table

/-- The statement, for a table whose dialect has the name needed. -/
def only (t : Table) (dialect statement : String) (text : String) : Except Problem String :=
  if t.dialect.name = dialect then .ok text
  else .error (.statementUnsupported statement t.dialect.name)

/-- The statement by which Hive finds the partitions in the files of the table. -/
def repair (t : Table) (suffix : String) : Except Problem String :=
  t.only "hive" "MSCK REPAIR TABLE" ("MSCK REPAIR TABLE " ++ t.reference suffix)

/-- The statement by which Hive learns of the partition in scope, and of its place. -/
def addPartition (t : Table) (location : Option String) (scope : Scope) : Except Problem String :=
  let place := match location with
    | some l => " LOCATION '" ++ l ++ "'"
    | none => ""
  t.only "hive" "ADD PARTITION"
    ("ALTER TABLE " ++ t.reference scope.suffix ++ " ADD IF NOT EXISTS PARTITION (" ++
      t.scopedCondition scope ", " ++ ")" ++ place)

end Warehouse.Table
