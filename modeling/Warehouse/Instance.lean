import Warehouse.Shape
import Warehouse.Warning

/-!
Instances of a shape: a table of that shape in a schema, with initial values for some of its columns.
-/

namespace Warehouse

/-- A table of a shape, not yet in any dialect. -/
structure Instance where
  shape : Shape
  schema : String
  columns : List Column
  properties : List Property
  policies : Policies

/-- The list with its first element that passes the test changed, if one passes. -/
def updateFirst? {α : Type} (test : α → Bool) (change : α → α) : List α → Option (List α)
  | [] => none
  | x :: rest =>
    if test x then some (change x :: rest) else (updateFirst? test change rest).map (x :: ·)

namespace Instance

/-- The columns with an initial value for the column of a name, if there is one. -/
def seed (columns : List Column) (entry : String × String) : List Column :=
  (updateFirst? (·.name == entry.1) (fun c => { c with value := some entry.2 }) columns).getD columns

/-- The instance of a shape in a schema, with initial values by column name. Values for columns that do
not exist are ignored. -/
def create (shape : Shape) (schema : String) (values : List (String × String)) :
    Except Problem Instance :=
  shape.requirePrototype >>= fun p =>
    .ok { shape
          schema
          columns := values.foldl seed p.columns
          properties := p.properties
          policies := p.policies }

/-- The warnings that creating an instance gives: one for each value that is ignored. -/
def createWarnings (shape : Shape) (values : List (String × String)) : List Warning :=
  match shape.prototype with
  | none => []
  | some p =>
    (values.filter fun (name, _) => !p.columns.any (·.name == name)).map fun (name, _) =>
      .valueIgnored name shape.name

/-- The name of the table. -/
def tableName (i : Instance) : String := i.shape.tableName

/-- Sets a column's value by hand. -/
def setValue (i : Instance) (column value : String) : Change Instance :=
  match updateFirst? (·.name == column) (·.setValue value) i.columns with
  | some columns => .ok () { i with columns }
  | none => .error (.unknownColumn i.shape.name column) i

end Instance

end Warehouse
