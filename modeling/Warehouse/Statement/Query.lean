import Warehouse.Table.Scope

/-!
Select statements: as data, the select list, the source, the condition, the order and the limit, and how
a table is queried, whole or one partition of it.
-/

namespace Warehouse

/-- A select statement. An empty condition or order is none. -/
structure Query where
  items : List String
  source : String
  condition : String := ""
  order : List String := []
  limit : Option Nat := none
  deriving DecidableEq, Repr

/-- The condition as it follows the rest of a statement; an empty one leaves no trace. -/
def whereClause (condition : String) : String :=
  if condition = "" then "" else " WHERE " ++ condition

/-- The text of the statement. -/
def Query.text (q : Query) : String :=
  "SELECT " ++ String.intercalate ", " q.items ++ " FROM " ++ q.source ++ whereClause q.condition ++
    (if q.order.isEmpty then "" else " ORDER BY " ++ String.intercalate ", " q.order) ++
    match q.limit with
    | none => ""
    | some n => " LIMIT " ++ toString n

/-- What to select from a table. A transform is a template over the quoted name of its column. -/
structure SelectOptions where
  filter : Filter := .all
  suffix : String := ""
  condition : Option String := none
  transforms : Dict String := Dict.empty
  limit : Option Nat := none
  orderBySortkey : Bool := false
  useStar : Bool := false

/-- The select item of a column: its quoted name, or its transform under that name. -/
def BoundColumn.selectItem (c : BoundColumn) (transforms : Dict String) : String :=
  match transforms.find? c.name with
  | some transform =>
    Template.substitutePairs transform [("c", c.quotedName)] ++ " AS " ++ c.quotedName
  | none => c.quotedName

namespace Table

/-- The quoted keys of the table's sort key. -/
def sortKeys (t : Table) : List String :=
  match (t.property? .sortkey).bind (·.declared.attributes.find? "keys") with
  | some keys => keys.asList.map t.vocabulary.quoteColumn
  | none => []

/-- The query of a table. -/
def query (t : Table) (o : SelectOptions) : Query where
  items :=
    if o.useStar then ["*"]
    else (t.select true o.filter).map (·.selectItem o.transforms)
  source := t.reference o.suffix
  condition := o.condition.getD ""
  order := if o.orderBySortkey then t.sortKeys else []
  limit := o.limit

/-- The select statement of a table. -/
def selectText (t : Table) (o : SelectOptions) : String := (t.query o).text

/-- The options with the condition of a scope in front of their own. -/
def scopedOptions (t : Table) (o : SelectOptions) (scope : Scope) : SelectOptions :=
  let conditions := [t.scopedCondition scope " AND ", o.condition.getD ""].filter (· != "")
  { o with condition := some (String.intercalate " AND " conditions) }

/-- The select statement of the partition in scope. -/
def selectPartition (t : Table) (o : SelectOptions) (scope : Scope) : String :=
  t.selectText (t.scopedOptions o scope)

/-- The select statement of one value of each column of the partition in scope. -/
def sample (t : Table) (o : SelectOptions) (scope : Scope) : String :=
  let entries := (t.columnNames true .all).map fun name => (name, t.vocabulary.sampleFunction)
  t.selectPartition { o with transforms := Dict.ofList entries } scope

end Table

end Warehouse
