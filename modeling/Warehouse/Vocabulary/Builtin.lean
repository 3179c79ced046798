import Warehouse.Vocabulary

/-!
The vocabularies of the built-in dialects: Hive, Presto (which Trino shares) and Redshift.
-/

namespace Warehouse.Vocabulary

open Template (slot)

/-- A part of a template that is left out when one of its slots has no value. -/
def optional (text : String) : String := "[[" ++ text ++ "]]"

/-- The vocabulary of Hive. -/
def hive : Vocabulary where
  typeTemplate
    | .boolean => some "BOOLEAN"
    | .tinyint => some "TINYINT"
    | .smallint => some "SMALLINT"
    | .integer => some "INT"
    | .bigint => some "BIGINT"
    | .real => some "FLOAT"
    | .double => some "DOUBLE"
    | .decimal => some ("DECIMAL(" ++ slot "precision" ++ "," ++ slot "scale" ++ ")")
    | .varchar => some ("STRING" ++ optional ("(" ++ slot "length" ++ ")"))
    | .char => some ("CHAR(" ++ slot "length" ++ ")")
    | .varbinary => some ("BINARY(" ++ slot "length" ++ ")")
    | .json => some "STRING"
    | .date => some "DATE"
    | .time => none
    | .timestamp => some "TIMESTAMP"
    | .array => some ("ARRAY<" ++ slot "element" ++ ">")
    | .map => some ("MAP<" ++ slot "key_type" ++ ", " ++ slot "value_type" ++ ">")
    | .row => some ("STRUCT<" ++ slot "fields" ++ ">")
    | .ipAddress => some "STRING"
  propertyTemplate
    | .format => some ("STORED AS " ++ slot "format")
    | .bucket => some ("CLUSTERED BY (" ++ slot "by" ++ ") INTO " ++ slot "count" ++ " BUCKETS")
    | _ => none
  typeNeeds
    | .decimal => some ["precision", "scale"]
    | .char => some ["length"]
    | .varbinary => some ["length"]
    | _ => none
  propertyNeeds
    | .format => some ["format"]
    | .bucket => some ["by", "count"]
    | _ => none
  tableQuote := .backtick
  columnQuote := .backtick
  columnSetter := slot "value" ++ " " ++ slot "name"
  rowField := slot "quoted_name" ++ " : " ++ slot "type"

/-- The vocabulary of Presto and Trino. -/
def presto : Vocabulary where
  typeTemplate
    | .boolean => some "BOOLEAN"
    | .tinyint => some "TINYINT"
    | .smallint => some "SMALLINT"
    | .integer => some "INTEGER"
    | .bigint => some "BIGINT"
    | .real => some "REAL"
    | .double => some "DOUBLE"
    | .decimal => some ("DECIMAL(" ++ slot "precision" ++ "," ++ slot "scale" ++ ")")
    | .varchar => some ("VARCHAR" ++ optional ("(" ++ slot "length" ++ ")"))
    | .char => some ("CHAR(" ++ slot "length" ++ ")")
    | .varbinary => some ("VARBINARY(" ++ slot "length" ++ ")")
    | .json => some "JSON"
    | .date => some "DATE"
    | .time => some "TIME"
    | .timestamp => some "TIMESTAMP"
    | .array => some ("ARRAY(" ++ slot "element" ++ ")")
    | .map => some ("MAP(" ++ slot "key_type" ++ ", " ++ slot "value_type" ++ ")")
    | .row => some ("ROW(" ++ slot "fields" ++ ")")
    | .ipAddress => some "IPADDRESS"
  propertyTemplate
    | .format => some ("format = '" ++ slot "format" ++ "'")
    | .bucket =>
      some ("bucketed_by = ARRAY[" ++ slot "by" .single ++ "], bucket_count = " ++ slot "count")
    | _ => none
  typeNeeds
    | .decimal => some ["precision", "scale"]
    | .char => some ["length"]
    | .varbinary => some ["length"]
    | _ => none
  propertyNeeds
    | .format => some ["format"]
    | .bucket => some ["by", "count"]
    | _ => none
  sampleFunction := "ARBITRARY(" ++ slot "c" ++ ")"

/-- The vocabulary of Redshift. Almost every column needs an encoding. -/
def redshift : Vocabulary where
  typeTemplate
    | .boolean => some "BOOLEAN"
    | .tinyint => some "TINYINT"
    | .smallint => some "SMALLINT"
    | .integer => some "INTEGER"
    | .bigint => some "BIGINT"
    | .real => some "REAL"
    | .double => some "FLOAT"
    | .decimal => some ("NUMERIC(" ++ slot "precision" ++ "," ++ slot "scale" ++ ")")
    | .varchar => some ("VARCHAR(" ++ slot "length" ++ ")")
    | .char => some ("CHAR(" ++ slot "length" ++ ")")
    | .date => some "DATE"
    | .timestamp => some "TIMESTAMP"
    | _ => none
  propertyTemplate
    | .sortkey => some ("SORTKEY(" ++ slot "keys" .double ++ ")")
    | .distributionKey => some ("DISTKEY(\"" ++ slot "key" ++ "\")")
    | .distributionStyle => some ("DISTSTYLE " ++ slot "style")
    | _ => none
  typeNeeds
    | .tinyint => some ["encode"]
    | .smallint => some ["encode"]
    | .integer => some ["encode"]
    | .bigint => some ["encode"]
    | .real => some ["encode"]
    | .double => some ["encode"]
    | .decimal => some ["precision", "scale", "encode"]
    | .char => some ["length", "encode"]
    | .varchar => some ["length", "encode"]
    | .date => some ["encode"]
    | .timestamp => some ["encode"]
    | _ => none
  propertyNeeds
    | .sortkey => some ["keys"]
    | .distributionKey => some ["key"]
    | .distributionStyle => some ["style"]
    | _ => none

end Warehouse.Vocabulary
