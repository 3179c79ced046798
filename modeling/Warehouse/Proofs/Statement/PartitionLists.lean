import Warehouse.Proofs.Dialect.Trino
import Warehouse.Proofs.Statement.Literals
import Warehouse.Proofs.Statement.Loading
import Warehouse.Proofs.Table.Comparisons
import Warehouse.Proofs.Vocabulary.Quoted

/-!
Where statements list the partitions of a table. A new table in Presto and Trino has them at the end of its body
and again in its `WITH` clause, and an insertion in Hive has those without a value in its `PARTITION` clause and
again among its columns. The filter has a say in one list of the two: the clauses name all partitions. So the
lists agree for the filters that let all of these partitions through, and as long as the names have no blanks at
their ends, which the literals of the `WITH` clause leave out.
-/

namespace Warehouse

open Statement (IsLiteral literal readLiteral?_literal)

/-- What is picked from a list gives what another reading of the whole list gives, exactly when all of it is
picked and the readings agree on it. -/
theorem map_eq_map_filter_iff {α β : Type} {read say : α → β} {pick : α → Bool} {l : List α} :
    l.map read = (l.filter pick).map say ↔ ∀ x ∈ l, pick x = true ∧ read x = say x := by
  constructor
  · intro h x hx
    have hlength : (l.filter pick).length = l.length := by
      rw [← List.length_map say, ← h, List.length_map]
    have hall := List.length_filter_eq_length_iff.1 hlength
    rw [List.filter_eq_self.2 hall] at h
    exact ⟨hall x hx, List.map_inj_left.1 h x hx⟩
  · intro h
    rw [List.filter_eq_self.2 fun x hx => (h x hx).1]
    exact List.map_congr_left fun x hx => (h x hx).2

namespace Table

/-! ### The lists -/

/-- The names of the columns besides the partitions that the filter lets through, in order. -/
def regularNames (t : Table) (filter : Filter) : List String :=
  ((t.select true filter).filter (!·.isPartition)).map (·.name)

/-- The names of the partitions that the filter lets through, in order. -/
def closingNames (t : Table) (filter : Filter) : List String :=
  (t.partitions.filter (filter.accepts ·.declared)).map (·.name)

/-- The partitions that have no value. -/
def openPartitions (t : Table) : List BoundColumn :=
  t.partitions.filter (·.declared.currentValue?.isNone)

/-- The names of those of them that the filter lets through, in order. -/
def openNames (t : Table) (filter : Filter) : List String :=
  (t.openPartitions.filter (filter.accepts ·.declared)).map (·.name)

/-- The entry of the `WITH` clause that names the partitions by literals. -/
def partitionedByEntries (literals : List String) : List String :=
  if literals.isEmpty then [] else ["partitioned_by = ARRAY[" ++ String.intercalate ", " literals ++ "]"]

/-- The entries of the `WITH` clause about files of its own, which only Trino has. -/
def storageEntries (t : Table) (o : CreateOptions) : List String :=
  match t.dialect with
  | .trino => (o.storage.map (·.withEntries)).getD []
  | _ => []

/-- Whether a line of a body defines the column of the name, and is read as doing so. -/
def DefinesColumn (t : Table) (name line : String) : Prop :=
  (∃ c ∈ t.columns, c.name = name ∧ line = t.dialect.columnDefinition c) ∧
    ∃ rest, t.vocabulary.columnQuote.leadingName? line = some (name, rest)

/-- Whether the statement that creates a table reads as one whose body defines these columns and whose `WITH`
clause lists those partitions. -/
def DefinesAndLists (t : Table) (o : CreateOptions) (defined listed : List String) : Prop :=
  ∃ lines literals, t.createTable o = "CREATE TABLE IF NOT EXISTS " ++ t.reference o.suffix ++ " (\n" ++
      indentedLines lines ++ "\n)" ++ t.remarkClause ++
      withClause (partitionedByEntries literals ++ (t.propertyTexts ++ t.storageEntries o)) ∧
    List.Forall₂ t.DefinesColumn defined lines ∧
    List.Forall₂ (fun name lit => IsLiteral lit name) listed literals

/-- The name that an entry of a `PARTITION` clause consists of, if it gives no value. -/
def soleName? (q : QuoteStyle) (entry : String) : Option String :=
  match q.leadingName? entry with
  | some (name, rest) => if rest = "" then some name else none
  | none => none

/-- Whether an insertion reads as one that names these partitions without a value in its `PARTITION` clause and
has those partitions among its columns. -/
def NamesAndFeeds (t : Table) (source : Source) (filter : Filter) (suffix : String)
    (named fed : List String) : Prop :=
  ∃ (columns : List String) (rest : String), t.insertInto source filter suffix = "INSERT INTO " ++ t.reference suffix ++
      partitionClause t.partitionEntries ++ " (" ++
      String.intercalate ", " (columns.map t.vocabulary.quoteColumn) ++ ") SELECT " ++ rest ∧
    (t.partitionEntries.map (·.text)).filterMap (soleName? t.vocabulary.columnQuote) = named ∧
    columns.filter (t.partitionNames.contains ·) = fed

/-! ### New tables -/

theorem partitionsLast_names (t : Table) (filter : Filter) :
    (t.partitionsLast filter).map (·.name) = t.regularNames filter ++ t.closingNames filter := by
  have hclosing : (t.select true filter).filter (·.isPartition) =
      t.partitions.filter (filter.accepts ·.declared) := by
    rw [select, partitions, List.filter_filter, List.filter_filter]
    exact List.filter_congr fun c _ => by simp [Bool.and_comm]
  rw [partitionsLast, List.map_append, hclosing]
  rfl

theorem withEntries_eq (t : Table) (more : List String) : t.withEntries more =
    partitionedByEntries (t.partitionNames.map literal) ++ (t.propertyTexts ++ more) := by
  simp [withEntries, partitionedByEntries]

theorem createTable_eq_prestoDefinition {t : Table} (hd : t.dialect = .presto ∨ t.dialect = .trino)
    (o : CreateOptions) : t.createTable o = (t.prestoDefinition o (t.storageEntries o)).text := by
  rcases hd with hd | hd <;> rw [createTable, definition, storageEntries, hd]

/-- The definition of a column in the standard wording begins with its name. -/
theorem WellBound.definesColumn {t : Table} (ht : t.WellBound) (hd : t.dialect.Standard) {c : BoundColumn}
    (hc : c ∈ t.columns) : t.DefinesColumn c.name (t.dialect.columnDefinition c) := by
  refine ⟨⟨c, hc, rfl, rfl⟩, ?_⟩
  rw [Statement.columnDefinition_standard hd, ht.quotedName hc, String.append_assoc, String.append_assoc]
  exact ⟨_, QuoteStyle.leadingName?_quote _ _ _ (QuoteStyle.leaves_blank _ rfl _)⟩

/-- The body of a new table has the columns that the filter lets through, its `WITH` clause all partitions. -/
theorem WellBound.definesAndLists {t : Table} (ht : t.WellBound)
    (hd : t.dialect = .presto ∨ t.dialect = .trino) (o : CreateOptions) :
    t.DefinesAndLists o (t.regularNames o.filter ++ t.closingNames o.filter)
      (t.partitionNames.map Text.trim) := by
  have htext := createTable_eq_prestoDefinition hd o
  rw [prestoDefinition_layout, withEntries_eq] at htext
  refine ⟨_, _, htext, ?_, ?_⟩
  · rw [← partitionsLast_names, definitions, List.forall₂_map_left_iff, List.forall₂_map_right_iff,
      List.forall₂_same]
    intro c hc
    have hmem : c ∈ t.columns := by
      rcases List.mem_append.1 hc with h | h <;> exact List.mem_of_mem_filter (List.mem_of_mem_filter h)
    have hstandard : t.dialect.Standard := by
      rcases hd with hd | hd <;> rw [hd] <;> constructor
    exact ht.definesColumn hstandard hmem
  · rw [List.forall₂_map_left_iff, List.forall₂_map_right_iff, List.forall₂_same]
    exact fun name _ => readLiteral?_literal name

/-! ### Insertions -/

theorem soleName?_entry (q : QuoteStyle) (name : String) (value : Option String) :
    soleName? q (PartitionEntry.text ⟨q.quote name, value⟩) = if value.isNone then some name else none := by
  cases value with
  | none =>
    have hname := q.leadingName?_quote name "" q.leaves_nil
    rw [String.append_empty] at hname
    simp [PartitionEntry.text, soleName?, hname]
  | some value =>
    have hname := q.leadingName?_quote name (" = " ++ value) (q.leaves_blank rfl value)
    simp [PartitionEntry.text, soleName?, String.append_assoc, hname]

section WellBound

variable {t : Table} (ht : t.WellBound)
include ht

/-- The entries without a value are those of the partitions without one, whatever the filter says. -/
theorem WellBound.soleNames : (t.partitionEntries.map (·.text)).filterMap
    (soleName? t.vocabulary.columnQuote) = t.openPartitions.map (·.name) := by
  rw [partitionEntries, List.map_map, List.filterMap_map, openPartitions, ← List.filterMap_eq_map,
    List.filterMap_filter]
  refine List.filterMap_congr fun p hp => ?_
  have hquoted : p.quotedName = t.vocabulary.columnQuote.quote p.name :=
    ht.quotedName (List.mem_of_mem_filter hp)
  simp only [Function.comp_apply, hquoted, soleName?_entry]

/-- Names tell partitions from other columns. -/
theorem WellBound.contains_partitionNames {c : BoundColumn} (hc : c ∈ t.columns) :
    t.partitionNames.contains c.name = c.isPartition := by
  rw [Bool.eq_iff_iff, List.contains_iff_mem]
  constructor
  · intro h
    obtain ⟨p, hp, hname⟩ := List.mem_map.1 h
    obtain ⟨hmem, hpartition⟩ := List.mem_filter.1 hp
    rwa [← List.inj_on_of_nodup_map ht.names_nodup hmem hc hname]
  · exact fun h => List.mem_map_of_mem (List.mem_filter.2 ⟨hc, h⟩)

/-- The partitions in the column list are those without a value that the filter lets through. -/
theorem WellBound.fed_partitions (filter : Filter) :
    ((t.chosenRows filter).map (·.name)).filter (t.partitionNames.contains ·) = t.openNames filter := by
  rw [← select_fed, List.map_map, List.filter_map, openNames, openPartitions, partitions, select,
    List.filter_filter, List.filter_filter, List.filter_filter]
  refine congrArg _ (List.filter_congr fun c hc => ?_)
  have hpartition : t.partitionNames.contains c.declared.name = c.isPartition := ht.contains_partitionNames hc
  have hfed : (Filter.custom isFedByRows).accepts c.declared =
      (!c.isPartition || c.declared.currentValue?.isNone) := rfl
  simp only [Function.comp_apply, Filter.accepts_and, hpartition, hfed]
  cases c.isPartition <;> simp [Bool.and_comm]

theorem WellBound.namesAndFeeds (hd : t.dialect = .hive) (source : Source) (filter : Filter)
    (suffix : String) :
    t.NamesAndFeeds source filter suffix (t.openPartitions.map (·.name)) (t.openNames filter) := by
  have htext := ht.coherent.hiveInsertInto_text hd source filter suffix
  have hcolumns : t.nameList (t.chosenRows filter) =
      String.intercalate ", " (((t.chosenRows filter).map (·.name)).map t.vocabulary.quoteColumn) := by
    rw [List.map_map]
    rfl
  rw [hcolumns, String.append_assoc, String.append_assoc] at htext
  exact ⟨_, _, htext, ht.soleNames, ht.fed_partitions filter⟩

end WellBound

/-! ### Agreement -/

/-- The list in the `WITH` clause is that at the end of the body exactly when the filter lets all partitions
through and no name loses anything as a literal. -/
theorem listed_eq_closing_iff (t : Table) (filter : Filter) :
    t.partitionNames.map Text.trim = t.closingNames filter ↔
      ∀ p ∈ t.partitions, filter.accepts p.declared = true ∧ Text.trim p.name = p.name := by
  rw [partitionNames, List.map_map, closingNames]
  exact map_eq_map_filter_iff

/-- The list in the `PARTITION` clause is that among the columns exactly when the filter lets all partitions
without a value through. -/
theorem named_eq_fed_iff (t : Table) (filter : Filter) :
    t.openPartitions.map (·.name) = t.openNames filter ↔
      ∀ p ∈ t.partitions, p.declared.currentValue? = none → filter.accepts p.declared = true := by
  rw [openNames, map_eq_map_filter_iff, openPartitions]
  simp

/-- A new table in Presto or Trino defines the columns that the filter lets through, those among them that are
partitions at the end, and lists all partitions, trimmed; the two lists of partitions agree exactly when the
filter lets all partitions through and there are no blanks around their names. An insertion in Hive names all
partitions without a value, and has those of them among its columns that the filter lets through; these lists
agree exactly when it lets all of them through. -/
theorem partition_lists {t : Table} (ht : t.Reachable) :
    (t.dialect = .presto ∨ t.dialect = .trino → ∀ o : CreateOptions,
      t.DefinesAndLists o (t.regularNames o.filter ++ t.closingNames o.filter)
        (t.partitionNames.map Text.trim) ∧
      (t.partitionNames.map Text.trim = t.closingNames o.filter ↔
        ∀ p ∈ t.partitions, o.filter.accepts p.declared = true ∧ Text.trim p.name = p.name)) ∧
    (t.dialect = .hive → ∀ source filter suffix,
      t.NamesAndFeeds source filter suffix (t.openPartitions.map (·.name)) (t.openNames filter) ∧
      (t.openPartitions.map (·.name) = t.openNames filter ↔
        ∀ p ∈ t.partitions, p.declared.currentValue? = none → filter.accepts p.declared = true)) :=
  ⟨fun hd o => ⟨ht.wellBound.definesAndLists hd o, t.listed_eq_closing_iff o.filter⟩,
    fun hd source filter suffix => ⟨ht.wellBound.namesAndFeeds hd source filter suffix,
      t.named_eq_fed_iff filter⟩⟩

/-- Without the address, the visits have both partitions in both lists; and an insertion that leaves out the
country, which has a value, names the day alone and feeds it. -/
theorem visits_partition_lists : ∃ t u : Table, t.Reachable ∧ u.Reachable ∧
    t.dialect = .presto ∧ u.dialect = .hive ∧
    t.DefinesAndLists { filter := .except ["email"] } ["id", "ds", "country"] ["ds", "country"] ∧
    (∀ p ∈ t.partitions, (Filter.except ["email"]).accepts p.declared = true ∧ Text.trim p.name = p.name) ∧
    u.NamesAndFeeds (.table "web.events") (.except ["country"]) "" ["ds"] ["ds"] := by
  obtain ⟨t, ht, hpresto, hregular, hclosing, hlisted⟩ : ∃ t : Table, t.Reachable ∧ t.dialect = .presto ∧
      t.regularNames (.except ["email"]) = ["id"] ∧ t.closingNames (.except ["email"]) = ["ds", "country"] ∧
      t.partitionNames.map Text.trim = ["ds", "country"] := by
    have hbind : bind visitInstance .presto = .ok _ := rfl
    exact ⟨_, .bound visitInstance_declared hbind, rfl, by cbv, by cbv, by cbv⟩
  obtain ⟨u, hu, hhive, hnamed, hfed⟩ : ∃ u : Table, u.Reachable ∧ u.dialect = .hive ∧
      u.openPartitions.map (·.name) = ["ds"] ∧ u.openNames (.except ["country"]) = ["ds"] := by
    have hbind : bind visitInstance .hive = .ok _ := rfl
    exact ⟨_, .bound visitInstance_declared hbind, rfl, by cbv, by cbv⟩
  obtain ⟨hdefines, hagree⟩ := (partition_lists ht).1 (.inl hpresto) { filter := .except ["email"] }
  obtain ⟨hnames, _⟩ := (partition_lists hu).2 hhive (.table "web.events") (.except ["country"]) ""
  rw [hregular, hclosing, hlisted] at hdefines
  rw [hnamed, hfed] at hnames
  exact ⟨t, u, ht, hu, hpresto, hhive, hdefines, hagree.1 (hlisted.trans hclosing.symm), hnames⟩

/-- The table of the identifiers of visits, which is said to be partitioned by columns that it lacks. -/
def visitIdsText : String :=
  "CREATE TABLE IF NOT EXISTS \"web\".\"visits\" (\n  \"id\" INTEGER\n)\n" ++
    "WITH (\n  partitioned_by = ARRAY['ds', 'country']\n)"

/-- The draft of a table of payments, by a day whose name begins with a blank. -/
def payments : Draft where
  name := "Payments"
  columns := [Column.scalar "id" .integer, (Column.scalar " day" .date).asPartition]

/-- The shape of the draft. -/
def paymentShape : Shape where
  name := "Payments"
  description := none
  namePrefix := ""
  columns := payments.columns
  properties := []
  policies := Policies.none
  prototype := some ⟨payments.columns, [], Policies.none⟩

/-- A table of that shape. -/
def paymentInstance : Instance where
  shape := paymentShape
  schema := "web"
  columns := payments.columns
  properties := []
  policies := Policies.none

theorem paymentInstance_declared : paymentInstance.Declared := by
  have hbuild : payments.build = .ok paymentShape := by cbv
  have hcreate : Instance.create paymentShape "web" [] = .ok paymentInstance := rfl
  exact .created ⟨payments, hbuild⟩ hcreate

/-- The table of payments, which is said to be partitioned by a column without the blank. -/
def paymentText : String :=
  "CREATE TABLE IF NOT EXISTS \"web\".\"payments\" (\n  \"id\" INTEGER,\n  \" day\" DATE\n)\n" ++
    "WITH (\n  partitioned_by = ARRAY['day']\n)"

/-- An insertion of identifiers alone, which names a partition that it does not feed. -/
def visitIdsInsertion : String :=
  "INSERT INTO \x60web\x60.\x60visits\x60 PARTITION (\x60ds\x60, \x60country\x60 = 'nl') (\x60id\x60) " ++
    "SELECT \x60id\x60 FROM web.events"

set_option maxRecDepth 1024 in
/-- The lists disagree in these statements. -/
theorem partition_lists_differ : ∃ t u v : Table, t.Reachable ∧ u.Reachable ∧ v.Reachable ∧
    t.dialect = .presto ∧ u.dialect = .trino ∧ v.dialect = .hive ∧
    t.createTable { filter := .only ["id"] } = visitIdsText ∧ u.createTable {} = paymentText ∧
    v.insertInto (.table "web.events") (.only ["id"]) "" = visitIdsInsertion ∧
    t.partitionNames.map Text.trim ≠ t.closingNames (.only ["id"]) ∧
    u.partitionNames.map Text.trim ≠ u.closingNames .all ∧
    v.openPartitions.map (·.name) ≠ v.openNames (.only ["id"]) := by
  obtain ⟨t, ht, hpresto, htext, htlists⟩ : ∃ t : Table, t.Reachable ∧ t.dialect = .presto ∧
      t.createTable { filter := .only ["id"] } = visitIdsText ∧
      t.partitionNames.map Text.trim ≠ t.closingNames (.only ["id"]) := by
    have hbind : bind visitInstance .presto = .ok _ := rfl
    exact ⟨_, .bound visitInstance_declared hbind, rfl, by cbv, by decide⟩
  obtain ⟨u, hu, htrino, hutext, hulists⟩ : ∃ u : Table, u.Reachable ∧ u.dialect = .trino ∧
      u.createTable {} = paymentText ∧ u.partitionNames.map Text.trim ≠ u.closingNames .all := by
    have hbind : bind paymentInstance .trino = .ok _ := rfl
    exact ⟨_, .bound paymentInstance_declared hbind, rfl, by cbv, by decide⟩
  obtain ⟨v, hv, hhive, hvtext, hvlists⟩ : ∃ v : Table, v.Reachable ∧ v.dialect = .hive ∧
      v.insertInto (.table "web.events") (.only ["id"]) "" = visitIdsInsertion ∧
      v.openPartitions.map (·.name) ≠ v.openNames (.only ["id"]) := by
    have hbind : bind visitInstance .hive = .ok _ := rfl
    have hreachable := Reachable.bound visitInstance_declared hbind
    have hinsertion :=
      hreachable.wellBound.coherent.hiveInsertInto_text rfl (.table "web.events") (.only ["id"]) ""
    exact ⟨_, hreachable, rfl, hinsertion.trans (by cbv), by decide⟩
  exact ⟨t, u, v, ht, hu, hv, hpresto, htrino, hhive, htext, hutext, hvtext, htlists, hulists, hvlists⟩

end Table

end Warehouse
