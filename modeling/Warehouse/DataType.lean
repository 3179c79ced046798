/-!
What a declaration can be: the types of columns, independent of any dialect, and the kinds of table
properties. Each has a label for people and a key for declaration files.
-/

namespace Warehouse

/-- The type of a column as its author means it. -/
inductive DataType where
  | boolean
  | tinyint
  | smallint
  | integer
  | bigint
  | real
  | double
  | decimal
  | varchar
  | char
  | varbinary
  | json
  | date
  | time
  | timestamp
  | array
  | map
  | row
  | ipAddress
  deriving DecidableEq, Repr, Inhabited

namespace DataType

/-- Every type, in declaration order. -/
def all : List DataType :=
  [boolean, tinyint, smallint, integer, bigint, real, double, decimal, varchar, char, varbinary, json,
    date, time, timestamp, array, map, row, ipAddress]

/-- The type's name in messages. -/
def label : DataType → String
  | boolean => "Boolean"
  | tinyint => "Tinyint"
  | smallint => "Smallint"
  | integer => "Integer"
  | bigint => "Bigint"
  | real => "Real"
  | double => "Double"
  | decimal => "Decimal"
  | varchar => "Varchar"
  | char => "Char"
  | varbinary => "Varbinary"
  | json => "JSON"
  | date => "Date"
  | time => "Time"
  | timestamp => "Timestamp"
  | array => "Array"
  | map => "Map"
  | row => "Row"
  | ipAddress => "IPAddress"

/-- The type's name in declaration files. -/
def key : DataType → String
  | boolean => "boolean"
  | tinyint => "tinyint"
  | smallint => "smallint"
  | integer => "integer"
  | bigint => "bigint"
  | real => "real"
  | double => "double"
  | decimal => "decimal"
  | varchar => "varchar"
  | char => "char"
  | varbinary => "varbinary"
  | json => "json"
  | date => "date"
  | time => "time"
  | timestamp => "timestamp"
  | array => "array"
  | map => "map"
  | row => "row"
  | ipAddress => "ip_address"

/-- The type that a declaration file names. An address may also be written as one word. -/
def ofKey? (s : String) : Option DataType :=
  if s = "ipaddress" then some ipAddress else all.find? fun t => t.key = s

/-- Whether values of the type are built from other values. -/
def isComposite : DataType → Bool
  | array | map | row => true
  | _ => false

end DataType

/-- A storage or layout property of a table. -/
inductive PropertyKind where
  | format
  | bucket
  | sortkey
  | distributionKey
  | distributionStyle
  deriving DecidableEq, Repr, Inhabited

namespace PropertyKind

/-- Every kind of property, in declaration order. -/
def all : List PropertyKind := [format, bucket, sortkey, distributionKey, distributionStyle]

/-- The kind's name in messages. -/
def label : PropertyKind → String
  | format => "Format"
  | bucket => "Bucket"
  | sortkey => "Sortkey"
  | distributionKey => "DistributionKey"
  | distributionStyle => "DistributionStyle"

/-- The kind's name in declaration files. -/
def key : PropertyKind → String
  | format => "format"
  | bucket => "bucket"
  | sortkey => "sortkey"
  | distributionKey => "distribution_key"
  | distributionStyle => "distribution_style"

/-- The kind that a declaration file names. -/
def ofKey? (s : String) : Option PropertyKind := all.find? fun k => k.key = s

end PropertyKind

/-- What a vocabulary has a template for: a column type or a kind of property. -/
inductive DeclarationClass where
  | column (t : DataType)
  | property (k : PropertyKind)
  deriving DecidableEq, Repr

/-- The name of the class in messages. -/
def DeclarationClass.label : DeclarationClass → String
  | .column t => t.label
  | .property k => k.label

end Warehouse
