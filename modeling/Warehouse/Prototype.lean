import Warehouse.Column
import Warehouse.Policy
import Warehouse.Problem
import Warehouse.Property

/-!
Prototypes: the checked declaration of a table that can exist. It has at least one column; its columns,
and the fields of each row nested in them, have names, and no two share one.
-/

namespace Warehouse

/-- The checked declaration of a table. -/
structure Prototype where
  columns : List Column
  properties : List Property
  policies : Policies

namespace Prototype

/-- Checks that the fields of a row have names of their own, given the names already seen. -/
def checkFieldNames (row : String) (seen : List String) : List Column → Except Problem Unit
  | [] => .ok ()
  | field :: rest =>
    if field.name = "" then .error (.columnNameRequired (some ("field of row " ++ row)))
    else if field.name ∈ seen then .error (.columnNameNotUnique (row ++ "." ++ field.name))
    else checkFieldNames row (field.name :: seen) rest

mutual

/-- Checks the rows in a column, the outer before the inner ones. -/
def checkColumn : Column → Except Problem Unit
  | ⟨declared, kind⟩ => checkKind declared.name kind

/-- Checks what is nested in a column of the given name. -/
def checkKind (name : String) : Kind Column → Except Problem Unit
  | .scalar _ => .ok ()
  | .array element => checkColumn element
  | .map key value => checkColumn key >>= fun _ => checkColumn value
  | .row fields => checkFieldNames name [] fields >>= fun _ => checkAll fields

/-- Checks each of several columns. -/
def checkAll : List Column → Except Problem Unit
  | [] => .ok ()
  | c :: rest => checkColumn c >>= fun _ => checkAll rest

end

/-- Checks columns one after the other, given the names already seen. -/
def checkColumns (seen : List String) : List Column → Except Problem Unit
  | [] => .ok ()
  | c :: rest =>
    if c.name = "" then .error (.columnNameRequired none)
    else if c.name ∈ seen then .error (.columnNameNotUnique c.name)
    else checkColumn c >>= fun _ => checkColumns (c.name :: seen) rest

/-- The prototype of columns, properties and policies, its columns by rank. -/
def create (columns : List Column) (properties : List Property) (policies : Policies) :
    Except Problem Prototype :=
  if columns.isEmpty then .error .columnRequired
  else checkColumns [] columns >>= fun _ => .ok ⟨byRank columns, properties, policies⟩

end Prototype

end Warehouse
