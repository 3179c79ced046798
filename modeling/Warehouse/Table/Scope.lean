import Warehouse.Table

/-!
Scopes: which partition of a table a statement is about. The condition of a scope compares each
partition that is not ignored with its parameter, or else with its own value. It is first written with a
slot for each value and then filled in.
-/

namespace Warehouse

/-- A partition of a table: what else holds of its rows, values for the partitions, the partitions that
do not matter, and the suffix of the table. -/
structure Scope where
  condition : Option String := none
  params : Dict String := Dict.empty
  ignored : List String := []
  suffix : String := ""

namespace Table

/-- The values of the partitions, where the parameters given count first. -/
def partitionParams (t : Table) (params : Dict String) : Dict String :=
  let own := Dict.ofList (t.partitions.filterMap fun p => p.declared.value.map fun v => (p.name, v))
  own.union params

/-- One comparison for each partition that is not ignored, with a slot for its value, and the condition
given, unless it is empty. -/
def partitionConditions (t : Table) (condition : Option String) (ignored : List String) :
    List String :=
  ((t.partitions.filter fun p => !ignored.contains p.name).map fun p =>
    p.quotedName ++ " = " ++ Template.slot p.name) ++ (condition.filter (· != "")).toList

/-- The comparisons with a separator between them. -/
def partitionCondition (t : Table) (condition : Option String) (ignored : List String)
    (separator : String) : String :=
  String.intercalate separator (t.partitionConditions condition ignored)

/-- The condition of a scope, its slots filled in. -/
def scopedCondition (t : Table) (scope : Scope) (separator : String) : String :=
  Template.substitute (t.partitionCondition scope.condition scope.ignored separator)
    (t.partitionParams scope.params).find?

end Table

end Warehouse
