import Warehouse.Table.Scope

/-!
Statements that delete rows, of a whole table, of those matched by another one, or of one partition.
Hive drops the partition instead.
-/

namespace Warehouse

/-- Which rows to delete: those of a condition, and those matched by another table. -/
structure DeleteOptions where
  condition : Option String := none
  params : Dict String := Dict.empty
  source : Option String := none
  suffix : String := ""

/-- A statement that deletes rows. -/
structure Deletion where
  target : String
  source : Option String := none
  condition : Option String := none
  ending : String := ""
  deriving DecidableEq, Repr

/-- The text of the statement. -/
def Deletion.text (d : Deletion) : String :=
  "DELETE FROM " ++ d.target ++
    (match d.source with
      | some source => " USING " ++ source ++ " AS u"
      | none => "") ++
    (match d.condition with
      | some condition => " WHERE " ++ condition
      | none => "") ++
    d.ending

namespace Table

/-- The deletion of rows, its condition filled in with the parameters. -/
def deletion (t : Table) (o : DeleteOptions) : Deletion where
  target := t.reference o.suffix
  source := o.source
  condition := (o.condition.filter (· != "")).map (Template.substitute · o.params.find?)
  ending := t.dialect.terminator

/-- The statement that deletes rows. -/
def deleteFrom (t : Table) (o : DeleteOptions) : String := (t.deletion o).text

/-- The options that delete the partition in scope. -/
def partitionDeleteOptions (t : Table) (scope : Scope) : DeleteOptions where
  condition := some (t.partitionCondition scope.condition scope.ignored " AND ")
  params := t.partitionParams scope.params
  suffix := scope.suffix

/-- The statement that deletes the partition in scope. -/
def deletePartition (t : Table) (scope : Scope) : String :=
  match t.dialect with
  | .hive =>
    "ALTER TABLE " ++ t.reference scope.suffix ++ " DROP IF EXISTS PARTITION (" ++
      t.scopedCondition scope ", " ++ ") PURGE"
  | _ => t.deleteFrom (t.partitionDeleteOptions scope)

end Table

end Warehouse
