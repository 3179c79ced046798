import Warehouse.Attribute
import Warehouse.DataType

/-!
Properties of a whole table, such as its storage format or its sort key, and where an external table
keeps its data.
-/

namespace Warehouse

/-- A property of a table: its kind and what the dialect's template for that kind is filled with. -/
structure Property where
  kind : PropertyKind
  attributes : Attributes := Dict.empty

namespace Property

/-- The property with one more attribute. -/
def withAttribute (p : Property) (name : String) (value : Attribute) : Property :=
  { p with attributes := p.attributes.insert name value }

/-- The storage format. -/
def format (name : String) : Property :=
  withAttribute { kind := .format } "format" (.text name)

/-- The buckets that rows are spread over by the values of some columns. -/
def bucket (columns : List String) (count : Int64) : Property :=
  withAttribute (withAttribute { kind := .bucket } "by" (.list columns)) "count" (.int count)

/-- The columns that rows are sorted by. -/
def sortkey (columns : List String) : Property :=
  withAttribute { kind := .sortkey } "keys" (.list columns)

/-- The column that rows are distributed by. -/
def distributionKey (column : String) : Property :=
  withAttribute { kind := .distributionKey } "key" (.text column)

/-- The way rows are distributed. -/
def distributionStyle (style : String) : Property :=
  withAttribute { kind := .distributionStyle } "style" (.text style)

end Property

/-- Where an external table keeps its data, and its settings there. -/
structure ExternalStorage where
  location : String
  settings : Dict String := Dict.empty

end Warehouse
