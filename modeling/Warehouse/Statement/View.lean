import Warehouse.Statement.Query

/-!
Views on one partition of a table.
-/

namespace Warehouse

/-- How a view on a partition is to be created. -/
structure ViewOptions where
  suffix : String := "_latest"
  scope : Scope := {}
  transforms : Dict String := Dict.empty
  securityInvoker : Bool := false

namespace Table

/-- The statement that creates a view on the partition in scope. Hive has no security clause. -/
def createView (t : Table) (o : ViewOptions) : String :=
  let security :=
    match t.dialect with
    | .hive => ""
    | _ => if o.securityInvoker then " SECURITY INVOKER" else ""
  "CREATE OR REPLACE VIEW " ++ t.reference o.suffix ++ security ++ " AS " ++
    t.selectPartition { transforms := o.transforms } o.scope ++ t.dialect.terminator

/-- The warnings that creating a view gives. -/
def createViewWarnings (t : Table) (o : ViewOptions) : List Warning :=
  match t.dialect with
  | .hive => if o.securityInvoker then [.invokerIgnored (t.fullName false true o.suffix)] else []
  | _ => []

/-- The statement that drops a view. -/
def dropView (t : Table) (suffix : String) : String :=
  "DROP VIEW IF EXISTS " ++ t.reference suffix ++ t.dialect.terminator

end Table

end Warehouse
