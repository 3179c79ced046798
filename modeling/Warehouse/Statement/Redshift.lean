import Warehouse.Json
import Warehouse.Statement.Anonymise
import Warehouse.Statement.Create
import Warehouse.Statement.Delete
import Warehouse.Statement.Hive

/-!
Statements that only Redshift has: tables and views made from a select, external tables and their
partitions, and the copies between tables and files. Paths, options and credentials are left to the
scheduler, as macros between double braces.
-/

namespace Warehouse

/-- How an external table is to be created. -/
structure ExternalTableOptions where
  location : String := ""
  fileFormat : String := ""
  format : Option String := none
  settings : List String := []
  filter : Filter := .all
  suffix : String := ""

/-- A macro that the scheduler replaces by the value of the name. -/
def schedulerValue (name : String) : String := "\x7b\x7b " ++ name ++ " \x7d\x7d"

/-- A directive of the scheduler. -/
def schedulerDirective (text : String) : String := "\x7b% " ++ text ++ " %\x7d"

/-- The lines that give a copy its credentials: keys when the scheduler has them, else a role. -/
def credentials : String :=
  String.intercalate "\n"
    [schedulerDirective "if access_key and secret_key",
      "WITH CREDENTIALS 'aws_access_key_id=" ++ schedulerValue "access_key" ++
        ";aws_secret_access_key=" ++ schedulerValue "secret_key" ++ "'",
      schedulerDirective "else",
      "IAM_ROLE '" ++ schedulerValue "iam_role" ++ "'",
      schedulerDirective "endif"]

/-- The text of a select inside the quotes of an `UNLOAD`. -/
def unloadChars (cs : List Char) : List Char :=
  Text.replaceChar '\x27' ['\\', '\x27'] (Text.dropEnd (· == ';') (Text.trimChars cs))

/-- The statement that writes the rows of a select to files. -/
def unload (select : String) : String :=
  "UNLOAD ('" ++ String.ofList (unloadChars select.toList) ++ "')\nTO 's3://" ++
    schedulerValue "s3_bucket" ++ "/" ++ schedulerValue "s3_key" ++ "'\n" ++ credentials ++ "\n" ++
    schedulerValue "unload_options" ++ ";"

namespace Table

/-- The statement, for a table of Redshift. -/
def onRedshift (t : Table) (statement text : String) : Except Problem String :=
  t.only "redshift" statement text

/-- The select that loads the table from a source. -/
def loadQuery (t : Table) (source : Source) (filter : Filter) : Query where
  items := t.loadValues true filter
  source := source.text " AS vw"

/-- The properties of the table, each on a line of its own. -/
def propertyLines (t : Table) : String := String.join (t.propertyTexts.map ("\n" ++ ·))

/-- The statement that creates the table with the rows of a source. -/
def createAs (t : Table) (source : Source) (filter : Filter) (suffix : String) :
    Except Problem String :=
  t.onRedshift "CREATE TABLE AS"
    ("CREATE TABLE IF NOT EXISTS " ++ t.reference suffix ++ t.propertyLines ++ " AS " ++
      (t.loadQuery source filter).text ++ ";")

/-- The statement that creates a materialized view of a source. -/
def createMaterializedView (t : Table) (source : Source) (filter : Filter) (suffix : String) :
    Except Problem String :=
  t.onRedshift "CREATE MATERIALIZED VIEW"
    ("CREATE MATERIALIZED VIEW " ++ t.reference suffix ++ t.propertyLines ++ " AS " ++
      (t.loadQuery source filter).text ++ ";")

/-- The statement that drops a materialized view. -/
def dropMaterializedView (t : Table) (suffix : String) : Except Problem String :=
  t.onRedshift "DROP MATERIALIZED VIEW" ("DROP MATERIALIZED VIEW " ++ t.reference suffix ++ ";")

/-- The statement that brings a materialized view up to date. -/
def refreshMaterializedView (t : Table) (suffix : String) : Except Problem String :=
  t.onRedshift "REFRESH MATERIALIZED VIEW"
    ("REFRESH MATERIALIZED VIEW " ++ t.reference suffix ++ ";")

/-- The definition of the table over external files: names and types alone. -/
def externalDefinition (t : Table) (o : ExternalTableOptions) : TableDefinition :=
  let define (c : BoundColumn) : String := c.quotedName ++ " " ++ c.typeText
  { heading := "CREATE EXTERNAL TABLE "
    name := t.reference o.suffix
    definitions := (t.select false o.filter).map define
    clauses :=
      (partitionedBy? (t.partitions.map define)).toList ++ (o.format.filter (· != "")).toList ++
        ["STORED AS " ++ o.fileFormat, "LOCATION '" ++ o.location ++ "'"] ++
        (if o.settings.isEmpty then []
          else ["TABLE PROPERTIES (" ++ String.intercalate "," o.settings ++ ")"]) }

/-- The statement that creates the table over external files. -/
def createExternalTable (t : Table) (o : ExternalTableOptions) : Except Problem String :=
  t.onRedshift "CREATE EXTERNAL TABLE" (t.externalDefinition o).text

/-- The statement that adds the partition in scope to the external table. -/
def addExternalPartition (t : Table) (location : String) (scope : Scope) : Except Problem String :=
  t.onRedshift "ADD PARTITION"
    ("ALTER TABLE " ++ t.reference scope.suffix ++ " ADD IF NOT EXISTS PARTITION (" ++
      t.scopedCondition scope ", " ++ ") LOCATION '" ++ location ++ "'")

/-- The statement that drops the partition in scope from the external table. -/
def dropExternalPartition (t : Table) (scope : Scope) : Except Problem String :=
  t.onRedshift "DROP PARTITION"
    ("ALTER TABLE " ++ t.reference scope.suffix ++ " DROP IF EXISTS PARTITION (" ++
      t.scopedCondition scope ", " ++ ")")

/-- The update of the columns that were set by hand, in the partition in scope. -/
def manualUpdate (t : Table) (scope : Scope) : Update where
  target := t.reference scope.suffix
  assignments := (t.select false .manuallySet).map fun c =>
    (c.quotedName, c.declared.value.getD "NULL")
  condition := t.scopedCondition scope " AND "

/-- The statement that writes the columns set by hand, if there are any. -/
def updateManuallySet (t : Table) (scope : Scope) : Except Problem (Option String) :=
  (t.onRedshift "UPDATE" (t.manualUpdate scope).text).map fun sql =>
    if (t.manualUpdate scope).assignments.isEmpty then none else some sql

/-- The statement that copies files into the staging table. -/
def copyToStaging (t : Table) (o : StagingOptions) : Except Problem String :=
  let columns := (t.select o.withPartitions o.filter).map (·.quotedName)
  t.onRedshift "COPY"
    ("COPY " ++ t.stagingReference o.suffix ++ " (" ++ String.intercalate ", " columns ++
      ")\nFROM '" ++ schedulerValue "path_prefix" ++ "://" ++ schedulerValue "path" ++ "'\n" ++
      credentials ++ "\n" ++ schedulerValue "copy_options" ++ ";")

/-- The statement that writes the rows of the table to files. -/
def unloadTable (t : Table) (filter : Filter) : Except Problem String :=
  t.onRedshift "UNLOAD" (unload (t.selectText { filter }))

/-- The deletion of the rows that another table has under the same keys; without one, the staging
table. -/
def keyDeletion (t : Table) (primaryKeys : List String) (source : Option String)
    (params : Dict String) (suffix : String) : Deletion :=
  let target := t.reference suffix
  let matched (key : String) : String :=
    let quoted := Vocabulary.redshift.quoteColumn key
    "u." ++ quoted ++ " = " ++ target ++ "." ++ quoted
  let condition := String.intercalate " AND " (primaryKeys.map matched)
  { t.deletion
      { condition := some condition
        params
        source := some (source.getD (t.stagingReference suffix))
        suffix } with ending := Dialect.redshift.terminator }

/-- The statement that deletes the rows that another table has under the same keys. -/
def deleteUpsert (t : Table) (primaryKeys : List String) (source : Option String)
    (params : Dict String) (suffix : String) : Except Problem String :=
  t.onRedshift "DELETE USING" (t.keyDeletion primaryKeys source params suffix).text

/-- The places of the columns in JSON records, as a copy reads them, in the JSON of the given writer. -/
def jsonPaths (t : Table) (write : Json → String) : Except Problem String :=
  let paths := t.columns.filterMap fun c => (c.attribute? "jsonpath").map (·.display)
  t.onRedshift "JSONPATHS" (write (.object [("jsonpaths", .list (paths.map .text))]))

end Table

end Warehouse
