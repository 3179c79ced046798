import Warehouse.Proofs.Dialect.Trino
import Warehouse.Proofs.Module.FullNames
import Warehouse.Proofs.Vocabulary.Quoted
import Warehouse.Statement.Redshift

/-!
Which object a statement means. The name of a table is told by its shape, its schema and its dialect, and the
name of its staging table by its partitions as well; no other column and no other value has a say. So a table
is dropped under the name that it was created under, whatever was done to it in between, and so is its staging
table as long as no partition was given a value or added.
-/

namespace Warehouse

open Statement (object? readObject? readObject?_eq_some)

/-! ### Where a name ends -/

namespace QuoteStyle

variable (q : QuoteStyle)

/-- A quoted name is over at the end of a statement. -/
theorem leaves_terminator (d : Dialect) : q.Leaves d.terminator.toList := by
  cases d with
  | redshift => exact q.leaves_cons (by cases q <;> decide) []
  | hive | presto | trino | custom => exact q.leaves_nil

end QuoteStyle

namespace Statement

theorem object?_eq_some {q : QuoteStyle} {words text object rest : String}
    (htext : text = words ++ object ++ rest) (hrest : q.Leaves rest.toList)
    (hobject : ∃ schema name, object = q.quote schema ++ "." ++ q.quote name) :
    object? q words text = some object := by
  rw [object?, readObject?_eq_some.2 ⟨htext, hrest, hobject⟩, Option.map_some]

end Statement

/-- The name in a definition ends where the list of columns opens. -/
theorem TableDefinition.text_opens (d : TableDefinition) :
    ∃ rest, d.text = d.heading ++ d.name ++ (" (\n" ++ rest) :=
  ⟨indentedLines d.definitions ++ "\n)" ++ String.join (d.clauses.map ("\n" ++ ·)) ++ d.ending,
    by simp only [text, String.append_assoc]⟩

/-! ### What the name of the staging table rests on -/

namespace Table

/-- Whether an operation, if it succeeds, gives no partition a value and adds none. -/
def SparesPartitions (t : Table) : Operation → Prop
  | .setValue column _ => ∀ c, t.column? column = some c → c.isPartition = false
  | .addColumn c => (∃ t', t.addColumn c = .ok () t') → c.isPartition = false
  | .rebind _ => False
  | .withValues _ => False

/-- Whether operations, one after the other, give no partition a value and add none. -/
def RunSpares (t : Table) : List Operation → Prop
  | [] => True
  | o :: rest => t.SparesPartitions o ∧ (t.after o).RunSpares rest

theorem partitions_after {t : Table} {o : Operation} (ho : t.SparesPartitions o) :
    (t.after o).partitions = t.partitions := by
  cases h : t.perform o with
  | ok _ t' =>
    rw [after_ok h]
    cases o with
    | setValue column value => exact partitions_setValue ho h
    | addColumn c => exact partitions_addColumn (ho ⟨t', h⟩) h
    | rebind d => exact ho.elim
    | withValues values => exact ho.elim
  | error p left => rw [after_error h]

theorem partitions_run : ∀ {calls : List Operation} {t : Table}, t.RunSpares calls →
    (t.run calls).partitions = t.partitions
  | [], _, _ => rfl
  | _ :: _, _, h => (partitions_run h.2).trans (partitions_after h.1)

/-! ### Names in statements -/

section Statements

variable {t u : Table}

theorem NamedLike.vocabulary (h : t.NamedLike u) : u.vocabulary = t.vocabulary := by
  rw [Table.vocabulary, h.dialect, Table.vocabulary]

theorem NamedLike.reference (h : t.NamedLike u) (suffix : String) : u.reference suffix = t.reference suffix := by
  rw [reference_eq, reference_eq, h.vocabulary, h.schema, prefixedName, prefixedName, tableName, tableName,
    h.shape]

theorem stagingReference_eq (t : Table) (suffix : String) : t.stagingReference suffix =
    t.vocabulary.quoteTable t.schema ++ "." ++ t.vocabulary.quoteTable (t.prefixedStagingName ++ suffix) :=
  rfl

/-- The staging table of a table with the same partitions goes by the same name. -/
theorem NamedLike.stagingReference (h : t.NamedLike u) (hpartitions : u.partitions = t.partitions)
    (suffix : String) : u.stagingReference suffix = t.stagingReference suffix := by
  have hname : u.prefixedStagingName = t.prefixedStagingName := by
    rw [prefixedStagingName, prefixedStagingName, stagingName, stagingName, valueWords, valueWords,
      tableName, tableName, hpartitions, h.shape]
  rw [stagingReference_eq, stagingReference_eq, h.vocabulary, h.schema, hname]

/-- A text that means the table behind these words, and then goes on without the mark, means no other. -/
theorem object?_reference (words suffix rest : String) {text : String}
    (htext : text = words ++ t.reference suffix ++ rest)
    (hrest : t.vocabulary.tableQuote.Leaves rest.toList) :
    object? t.vocabulary.tableQuote words text = some (t.reference suffix) :=
  Statement.object?_eq_some htext hrest ⟨_, _, rfl⟩

theorem object?_stagingReference (words suffix rest : String) {text : String}
    (htext : text = words ++ t.stagingReference suffix ++ rest)
    (hrest : t.vocabulary.tableQuote.Leaves rest.toList) :
    object? t.vocabulary.tableQuote words text = some (t.stagingReference suffix) :=
  Statement.object?_eq_some htext hrest ⟨_, _, rfl⟩

end Statements

theorem leaves_dropEnding (q : QuoteStyle) (t : Table) : q.Leaves t.dropEnding.toList := by
  rw [dropEnding]
  split
  · exact q.leaves_cons (by cases q <;> decide) _
  · exact q.leaves_terminator _

theorem onRedshift_ok {t : Table} (hname : t.dialect.name = "redshift") (statement text : String) :
    t.onRedshift statement text = .ok text := if_pos hname

/-- A copy fills the staging table, whose name ends where the list of columns opens. -/
theorem copyToStaging_text (t : Table) (hname : t.dialect.name = "redshift") (o : StagingOptions) :
    ∃ sql rest, t.copyToStaging o = .ok sql ∧
      sql = "COPY " ++ t.stagingReference o.suffix ++ (" (" ++ rest) := by
  refine ⟨_, ?rest, onRedshift_ok hname _ _, ?text⟩
  case text =>
    simp only [String.append_assoc]
    rfl

/-- A deletion by keys means the table and, if no other source is given, its staging table. -/
theorem deleteUpsert_text (t : Table) (hname : t.dialect.name = "redshift") (primaryKeys : List String)
    (params : Dict String) (suffix : String) :
    ∃ sql rest, t.deleteUpsert primaryKeys none params suffix = .ok sql ∧
      sql = "DELETE FROM " ++ t.reference suffix ++
        (" USING " ++ t.stagingReference suffix ++ (" AS u" ++ rest)) := by
  refine ⟨_, ?rest, onRedshift_ok hname _ _, ?text⟩
  case text =>
    simp only [Deletion.text, keyDeletion, deletion, Option.getD_none, String.append_assoc]
    rfl

/-- The statements that drop and empty a table mean the object that was created. -/
structure DropsCreated (t later : Table) (suffix : String) : Prop where
  create : ∀ o : CreateOptions, o.suffix = suffix →
    ∃ heading ∈ ["CREATE TABLE IF NOT EXISTS ", "CREATE EXTERNAL TABLE IF NOT EXISTS "],
      object? t.vocabulary.tableQuote heading (t.createTable o) = some (t.reference suffix)
  drop : object? t.vocabulary.tableQuote "DROP TABLE IF EXISTS " (later.dropTable suffix) =
    some (t.reference suffix)
  truncate : object? t.vocabulary.tableQuote "TRUNCATE TABLE " (later.truncateTable suffix) =
    some (t.reference suffix)

/-- The statement that drops a staging table means the object that was created, and so do those of Redshift
that fill it and that delete the rows which it replaces. -/
structure DropsStaged (t later : Table) (suffix : String) : Prop where
  create : ∀ o : StagingOptions, o.suffix = suffix →
    object? t.vocabulary.tableQuote "CREATE TABLE IF NOT EXISTS " (t.createStagingTable o) =
      some (t.stagingReference suffix)
  drop : object? t.vocabulary.tableQuote "DROP TABLE IF EXISTS " (later.dropStagingTable suffix) =
    some (t.stagingReference suffix)
  copy : t.dialect.name = "redshift" → ∀ o : StagingOptions, o.suffix = suffix →
    ∃ sql, later.copyToStaging o = .ok sql ∧
      object? t.vocabulary.tableQuote "COPY " sql = some (t.stagingReference suffix)
  delete : t.dialect.name = "redshift" → ∀ primaryKeys params,
    ∃ sql behind, later.deleteUpsert primaryKeys none params suffix = .ok sql ∧
      readObject? t.vocabulary.tableQuote "DELETE FROM " sql = some (t.reference suffix, behind) ∧
      object? t.vocabulary.tableQuote " USING " behind = some (t.stagingReference suffix)

theorem NamedLike.dropsCreated {t later : Table} (h : t.NamedLike later) (suffix : String) :
    t.DropsCreated later suffix := by
  have hreference := h.reference suffix
  constructor
  case create =>
    rintro o rfl
    obtain ⟨rest, hrest⟩ := (t.definition o).text_opens
    rw [definition_name] at hrest
    exact ⟨_, t.definition_heading o, object?_reference _ _ _ hrest (QuoteStyle.leaves_blank _ rfl rest)⟩
  case drop =>
    refine object?_reference _ suffix later.dropEnding ?_ ?_
    · rw [← hreference]
      rfl
    · exact leaves_dropEnding _ _
  case truncate =>
    refine object?_reference _ suffix later.dialect.terminator ?_
      (QuoteStyle.leaves_terminator _ _)
    rw [← hreference]
    rfl

theorem NamedLike.dropsStaged {t later : Table} (h : t.NamedLike later)
    (hpartitions : later.partitions = t.partitions) (suffix : String) : t.DropsStaged later suffix := by
  have hreference := h.reference suffix
  have hstaging := h.stagingReference hpartitions suffix
  constructor
  case create =>
    rintro o rfl
    obtain ⟨rest, hrest⟩ := (t.stagingDefinition o).text_opens
    exact object?_stagingReference _ _ _ hrest (QuoteStyle.leaves_blank _ rfl rest)
  case drop =>
    refine object?_stagingReference _ suffix later.dialect.terminator ?_
      (QuoteStyle.leaves_terminator _ _)
    rw [← hstaging]
    rfl
  case copy =>
    rintro hname o rfl
    obtain ⟨sql, rest, hsql, htext⟩ := later.copyToStaging_text (h.dialect ▸ hname) o
    rw [hstaging] at htext
    exact ⟨sql, hsql, object?_stagingReference _ _ _ htext (QuoteStyle.leaves_blank _ rfl rest)⟩
  case delete =>
    intro hname primaryKeys params
    obtain ⟨sql, rest, hsql, htext⟩ :=
      later.deleteUpsert_text (h.dialect ▸ hname) primaryKeys params suffix
    rw [hreference, hstaging] at htext
    refine ⟨sql, _, hsql, readObject?_eq_some.2 ⟨htext, ?_, _, _, rfl⟩, ?_⟩
    · rw [String.append_assoc]
      exact QuoteStyle.leaves_blank _ rfl _
    · exact object?_stagingReference _ _ _ rfl (QuoteStyle.leaves_blank _ rfl rest)

/-- Whatever values a table is given and whatever columns are added to it, the statements that drop and empty it
mean the object that it was created as; and as long as no partition is given a value or added, this goes for its
staging table, too. -/
theorem created_object_is_dropped {t : Table} {calls : List Operation} (hcalls : ∀ o ∈ calls, o.KeepsDialect)
    (suffix : String) :
    t.DropsCreated (t.run calls) suffix ∧ (t.RunSpares calls → t.DropsStaged (t.run calls) suffix) :=
  have hlike := namedLike_run hcalls t
  ⟨hlike.dropsCreated suffix, fun hspares => hlike.dropsStaged (partitions_run hspares) suffix⟩

/-- The draft of a table of page loads, as Redshift encodes them. -/
def pageLoads : Draft where
  name := "PageLoads"
  namePrefix := some "tmp_"
  columns := [(Column.scalar "id" .integer).withAttribute "encode" (.text "az64"),
    ({ (Column.scalar "day" .date).asPartition with value := some "DATE('2020-01-01')" }).withAttribute
      "encode" (.text "raw")]

/-- The shape of the draft. -/
def pageLoadShape : Shape where
  name := "PageLoads"
  description := none
  namePrefix := "tmp_"
  columns := pageLoads.columns
  properties := []
  policies := Policies.none
  prototype := some ⟨pageLoads.columns, [], Policies.none⟩

/-- A table of that shape. -/
def pageLoadInstance : Instance where
  shape := pageLoadShape
  schema := "web"
  columns := pageLoads.columns
  properties := []
  policies := Policies.none

/-- Calls that leave the partition alone, of which the third one and the last one fail. -/
def pageLoadCalls : List Operation :=
  [.setValue "id" "1", .addColumn ((Column.scalar "at" .timestamp).withAttribute "encode" (.text "az64")),
    .addColumn (Column.scalar "day" .date).asPartition, .setValue "none" "2"]

/-- A table of page loads goes by one name in all statements, and so does its staging table. -/
theorem pageLoads_dropped : pageLoads.build = .ok pageLoadShape ∧
    Instance.create pageLoadShape "web" [] = .ok pageLoadInstance ∧ ∃ t,
    bind pageLoadInstance .redshift = .ok t ∧
    (t.run pageLoadCalls).columns.map (·.name) = ["id", "day", "at"] ∧
    t.reference "_v2" = "\"web\".\"tmp_page_loads_v2\"" ∧
    t.stagingReference "_v2" = "\"web\".\"tmp_stg_2020-01-01_page_loads_v2\"" ∧
    t.DropsCreated (t.run pageLoadCalls) "_v2" ∧ t.DropsStaged (t.run pageLoadCalls) "_v2" := by
  refine ⟨by cbv, rfl, ?_⟩
  have hbind : bind pageLoadInstance .redshift = .ok _ := rfl
  refine ⟨_, hbind, by cbv, by cbv, by cbv, ?_⟩
  have hkeeps : ∀ o ∈ pageLoadCalls, o.KeepsDialect := by
    simp [pageLoadCalls, Operation.KeepsDialect]
  obtain ⟨hdrops, hstaged⟩ := created_object_is_dropped hkeeps "_v2"
  refine ⟨hdrops, hstaged ⟨?regular, fun _ => rfl, ?refused, ?unknown, trivial⟩⟩
  case regular =>
    rintro _ ⟨⟩
    rfl
  case refused =>
    rintro ⟨_, ⟨⟩⟩
  case unknown =>
    rintro _ ⟨⟩

end Table

end Warehouse
