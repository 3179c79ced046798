import Warehouse.Attribute
import Warehouse.DataType
import Warehouse.Privacy

/-!
Column declarations. What every declaration says of itself is a `Declaration`; a `Column` adds its kind,
which holds the declarations nested in it: the element of an array, the key and value of a map, the
fields of a row.
-/

namespace Warehouse

/-- What a declaration says of itself, whatever its type. -/
structure Declaration where
  name : String
  attributes : Attributes := Dict.empty
  privacy : Privacy := {}
  isPartition : Bool := false
  value : Option String := none
  manuallySet : Bool := false
  defaultValue : Option String := none
  comment : Option String := none
  orderingKey : Option UInt64 := none

/-- The type of a column and what is nested in it. -/
inductive Kind (α : Type) where
  | scalar (t : DataType)
  | array (element : α)
  | map (key value : α)
  | row (fields : List α)

/-- The declaration of a column, or of a part of one. -/
structure Column extends Declaration where
  kind : Kind Column

namespace Kind

variable {α : Type}

/-- The type that the kind stands for. -/
def dataType : Kind α → DataType
  | scalar t => t
  | array _ => .array
  | map _ _ => .map
  | row _ => .row

/-- What is nested in the kind, in order. -/
def nested : Kind α → List α
  | scalar _ => []
  | array element => [element]
  | map key value => [key, value]
  | row fields => fields

end Kind

namespace Column

instance : Inhabited Column := ⟨⟨⟨"", Dict.empty, {}, false, none, false, none, none, none⟩, .scalar .boolean⟩⟩

/-- A column of a scalar type. -/
def scalar (name : String) (t : DataType) : Column := { name, kind := .scalar t }

/-- An array of elements. -/
def array (name : String) (element : Column) : Column := { name, kind := .array element }

/-- A map from keys to values. -/
def map (name : String) (key value : Column) : Column := { name, kind := .map key value }

/-- A row of named fields. -/
def row (name : String) (fields : List Column) : Column := { name, kind := .row fields }

/-- The column as a partition of its table. -/
def asPartition (c : Column) : Column := { c with isPartition := true }

/-- The column with one more attribute. -/
def withAttribute (c : Column) (name : String) (value : Attribute) : Column :=
  { c with attributes := c.attributes.insert name value }

/-- The type of the column. -/
def dataType (c : Column) : DataType := c.kind.dataType

/-- The declarations nested in the column. -/
def nested (c : Column) : List Column := c.kind.nested

/-- The column with a value that was set by hand. -/
def setValue (c : Column) (value : String) : Column :=
  { c with value := some value, manuallySet := true }

/-- The value, unless it is empty. -/
def currentValue? (c : Column) : Option String := c.value.filter (· != "")

/-- Whether documentation shows the column: it is kept and not dropped when loaded. -/
def isDocumented (c : Column) : Bool :=
  ((c.attributes.find? "keep").bind Attribute.asBool?).getD true && !c.privacy.dropsOn .insert

/-- The number that orders columns; one without a key comes last. -/
def rank (c : Column) : UInt64 := c.orderingKey.getD 0xFFFFFFFFFFFFFFFF

end Column

/-- The columns by rank; columns of equal rank stay in their order. -/
def byRank (columns : List Column) : List Column :=
  columns.mergeSort fun a b => a.rank ≤ b.rank

end Warehouse
