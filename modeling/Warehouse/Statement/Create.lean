import Warehouse.Statement.Literal
import Warehouse.Table
import Warehouse.Text.Casing

/-!
Statements that create and drop tables. A `CREATE TABLE` is data first: its heading, the name of the
table, the definitions of the columns and the clauses behind them; the dialects differ in what they put
there.
-/

namespace Warehouse

/-- A statement that creates a table. -/
structure TableDefinition where
  heading : String := "CREATE TABLE IF NOT EXISTS "
  name : String
  definitions : List String
  clauses : List String := []
  ending : String := ""
  deriving DecidableEq, Repr

/-- Entries one to a line, set in by two blanks, with commas between them. -/
def indentedLines (entries : List String) : String :=
  String.intercalate ",\n" (entries.map ("  " ++ ·))

/-- The text of the statement. -/
def TableDefinition.text (d : TableDefinition) : String :=
  d.heading ++ d.name ++ " (\n" ++ indentedLines d.definitions ++ "\n)" ++
    String.join (d.clauses.map ("\n" ++ ·)) ++ d.ending

/-- How a table is to be created. -/
structure CreateOptions where
  filter : Filter := .all
  suffix : String := ""
  external : Bool := false
  location : Option String := none
  format : Option String := none
  settings : List String := []
  storage : Option ExternalStorage := none

/-- How a staging table is to be created or filled. -/
structure StagingOptions where
  filter : Filter := .all
  withPartitions : Bool := false
  suffix : String := ""

/-- Compression encodings that Redshift knows. -/
def knownEncodings : List String :=
  ["BYTEDICT", "DELTA", "DELTA32K", "LZO", "MOSTLY8", "MOSTLY16", "MOSTLY32", "RAW", "RUNLENGTH",
    "TEXT255", "TEXT32K", "ZSTD"]

/-- Whether Redshift knows an encoding. The letters of ASCII may be of either case. -/
def isKnownEncoding (encoding : String) : Bool :=
  knownEncodings.any fun known =>
    known.toList.map Char.toLower == encoding.toList.map Char.toLower

/-- The encoding that a column asks for, in upper case. -/
def BoundColumn.encoding? (c : BoundColumn) : Option String :=
  (c.attribute? "encode").map fun a => Text.upper a.display

/-- A comment in Hive, which has no quotes inside: they become backticks. -/
def hiveComment (text : String) : String :=
  String.ofList (Text.replaceChar '\x27' ['\x60'] (Text.trimChars text.toList))

namespace Dialect

/-- The comment behind the definition of a column. -/
def commentClause : Dialect → Option String → String
  | _, none => ""
  | redshift, _ => ""
  | hive, some comment => " COMMENT '" ++ hiveComment comment ++ "'"
  | _, some comment => " COMMENT " ++ Statement.literal comment

/-- The definition of a column: its name and type, and what else the dialect says of a column. -/
def columnDefinition (d : Dialect) (c : BoundColumn) : String :=
  let named := c.quotedName ++ " " ++ c.typeText
  match d with
  | redshift =>
    let default := match c.declared.defaultValue with
      | some value => " DEFAULT " ++ value
      | none => ""
    let encode := match c.encoding? with
      | some encoding => " ENCODE " ++ encoding
      | none => ""
    named ++ default ++ encode
  | _ => named ++ d.commentClause c.comment

/-- The warnings that the definition of a column gives. -/
def definitionWarnings (d : Dialect) (c : BoundColumn) : List Warning :=
  match d, c.encoding? with
  | redshift, some encoding =>
    if isKnownEncoding encoding then [] else [.unknownEncoding c.name encoding]
  | _, _ => []

end Dialect

/-- The entries that describe external storage in a `WITH` clause. -/
def ExternalStorage.withEntries (s : ExternalStorage) : List String :=
  ("external_location = " ++ Statement.literal s.location) ::
    s.settings.entries.map fun (key, value) => key ++ " = " ++ Statement.literal value

namespace Table

/-- The definitions of columns in the table's dialect. -/
def definitions (t : Table) (columns : List BoundColumn) : List String :=
  columns.map t.dialect.columnDefinition

/-- The properties of the table as the dialect writes them. -/
def propertyTexts (t : Table) : List String := t.properties.map (·.text)

/-- What the declaration says of the table, if it says more than blanks. -/
def remark? (t : Table) : Option String :=
  t.description.filter fun d => !(Text.trim d).isEmpty

/-- The standard definition: all columns in order, and a line for each property. -/
def standardDefinition (t : Table) (o : CreateOptions) : TableDefinition where
  name := t.reference o.suffix
  definitions := t.definitions (t.select true o.filter)
  clauses := t.propertyTexts
  ending := t.dialect.terminator

/-- The clause that defines the partitions apart from the other columns. -/
def partitionedBy? (definitions : List String) : Option String :=
  if definitions.isEmpty then none
  else some ("PARTITIONED BY (\n" ++ indentedLines definitions ++ "\n)")

/-- The definition in Hive: partitions are defined apart, and files may lie outside the warehouse. -/
def hiveDefinition (t : Table) (o : CreateOptions) : TableDefinition where
  heading := if o.external then "CREATE EXTERNAL TABLE IF NOT EXISTS " else "CREATE TABLE IF NOT EXISTS "
  name := t.reference o.suffix
  definitions := t.definitions (t.select false o.filter)
  clauses :=
    (t.remark?.map fun d => "COMMENT '" ++ hiveComment d ++ "'").toList ++
      (partitionedBy? (t.definitions t.partitions)).toList ++
      (o.format.filter (· != "")).toList ++
      t.propertyTexts ++
      (if o.external then (o.location.map fun l => "LOCATION '" ++ l ++ "'").toList else []) ++
      (if o.settings.isEmpty then []
        else ["TBLPROPERTIES(" ++ String.intercalate "," o.settings ++ ")"])

/-- The columns that the filter lets through, the partitions behind the others. -/
def partitionsLast (t : Table) (filter : Filter) : List BoundColumn :=
  let columns := t.select true filter
  columns.filter (fun c => !c.isPartition) ++ columns.filter (·.isPartition)

/-- The entries of the `WITH` clause: the partitions, the properties, and those given. -/
def withEntries (t : Table) (more : List String) : List String :=
  let names := t.partitionNames
  let partitions :=
    if names.isEmpty then []
    else ["partitioned_by = ARRAY[" ++ String.intercalate ", " (names.map Statement.literal) ++ "]"]
  partitions ++ t.propertyTexts ++ more

/-- The definition in Presto and Trino: partitions come last and are named in the `WITH` clause. -/
def prestoDefinition (t : Table) (o : CreateOptions) (more : List String) : TableDefinition where
  name := t.reference o.suffix
  definitions := t.definitions (t.partitionsLast o.filter)
  clauses :=
    (t.remark?.map fun d => "COMMENT " ++ Statement.literal d).toList ++
      (let entries := t.withEntries more
       if entries.isEmpty then []
       else ["WITH (\n  " ++ String.intercalate ",\n  " entries ++ "\n)"])

/-- The definition of the table in its dialect. -/
def definition (t : Table) (o : CreateOptions) : TableDefinition :=
  match t.dialect with
  | .hive => t.hiveDefinition o
  | .presto => t.prestoDefinition o []
  | .trino => t.prestoDefinition o ((o.storage.map (·.withEntries)).getD [])
  | _ => t.standardDefinition o

/-- The statement that creates the table. -/
def createTable (t : Table) (o : CreateOptions) : String := (t.definition o).text

/-- The warnings that creating the table gives. -/
def createTableWarnings (t : Table) (o : CreateOptions) : List Warning :=
  (t.select true o.filter).flatMap t.dialect.definitionWarnings

/-- The definition of the staging table, which has the columns alone. -/
def stagingDefinition (t : Table) (o : StagingOptions) : TableDefinition where
  name := t.stagingReference o.suffix
  definitions := t.definitions (t.select o.withPartitions o.filter)
  ending := t.dialect.terminator

/-- The statement that creates the staging table. -/
def createStagingTable (t : Table) (o : StagingOptions) : String := (t.stagingDefinition o).text

/-- The warnings that creating the staging table gives. -/
def createStagingTableWarnings (t : Table) (o : StagingOptions) : List Warning :=
  (t.select o.withPartitions o.filter).flatMap t.dialect.definitionWarnings

/-- What ends the statement that drops a table: Hive drops its files at once. -/
def dropEnding (t : Table) : String :=
  match t.dialect with
  | .hive => " PURGE"
  | d => d.terminator

/-- The statement that drops the table. -/
def dropTable (t : Table) (suffix : String) : String :=
  "DROP TABLE IF EXISTS " ++ t.reference suffix ++ t.dropEnding

/-- The statement that empties the table. -/
def truncateTable (t : Table) (suffix : String) : String :=
  "TRUNCATE TABLE " ++ t.reference suffix ++ t.dialect.terminator

/-- The statement that drops the staging table. -/
def dropStagingTable (t : Table) (suffix : String) : String :=
  "DROP TABLE IF EXISTS " ++ t.stagingReference suffix ++ t.dialect.terminator

end Table

end Warehouse
