import Warehouse.Proofs.Table.Dropped
import Warehouse.Statement.Redshift
import Warehouse.Statement.Upsert

/-!
The statements that load a table, read as text: each has a select list with one item for each column that
the filter lets through, in the order of the columns, and every item is what the declaration of its column
may be fed with. Only Hive leaves columns out, the partitions that its `PARTITION` clause gives a value.
-/

namespace Warehouse

/-- Whether a filter and another one let a column through is asked of each. -/
theorem Filter.accepts_and (f g : Filter) (c : Column) :
    (f.and g).accepts c = (f.accepts c && g.accepts c) := by
  cases f <;> cases g <;> simp [Filter.and, accepts]

/-- Whether the text is a select list with exactly one item for each of the columns, in their order. -/
def SelectList (v : Vocabulary) (columns : List Column) (text : String) : Prop :=
  ∃ items, List.Forall₂ (LoadItem v) columns items ∧ text = String.intercalate ", " items

/-- The arm of a merge that keeps the existing rows. -/
def Upsert.existingArm (u : Upsert) : String :=
  "SELECT " ++ String.intercalate ", " u.items ++ " FROM (" ++ u.existing ++ ") AS d" ++
    (if u.keyMatches.isEmpty then ""
     else " WHERE NOT EXISTS (SELECT 1 FROM incremental_update AS u WHERE " ++
      String.intercalate " AND " u.keyMatches ++ ")")

theorem Upsert.text_eq (u : Upsert) : u.text = "WITH incremental_update AS (" ++ u.update ++
    ") SELECT " ++ String.intercalate ", " u.items ++ " FROM incremental_update UNION ALL " ++
    u.existingArm := by
  delta Upsert.text Upsert.existingArm
  simp only [String.append_assoc]
  rfl

namespace Table

/-- The declarations of the columns that a filter lets through, in order. -/
def chosen (t : Table) (filter : Filter) : List Column :=
  t.toInstance.columns.filter filter.accepts

/-- The declarations of the columns that the rows feed: Hive's partitions with a value are left out. -/
def chosenRows (t : Table) (filter : Filter) : List Column := (t.chosen filter).filter isFedByRows

/-- The quoted names of columns, as an insertion lists them. -/
def nameList (t : Table) (columns : List Column) : String :=
  String.intercalate ", " (columns.map fun c => t.vocabulary.quoteColumn c.name)

/-- Each statement that loads the table has a select list over the columns that are chosen. -/
structure LoadsByPriority (t : Table) : Prop where
  insertion : t.dialect ≠ .hive → ∀ source filter suffix, ∃ list,
    SelectList t.vocabulary (t.chosen filter) list ∧
      t.insertInto source filter suffix = "INSERT INTO " ++ t.reference suffix ++ " (" ++
        t.nameList (t.chosen filter) ++ ") SELECT " ++ list ++ " FROM " ++ source.text " AS vw" ++
        t.dialect.terminator
  hiveInsertion : t.dialect = .hive → ∀ source filter suffix, ∃ list,
    SelectList t.vocabulary (t.chosenRows filter) list ∧
      t.insertInto source filter suffix = "INSERT INTO " ++ t.reference suffix ++
        partitionClause t.partitionEntries ++ " (" ++ t.nameList (t.chosenRows filter) ++
        ") SELECT " ++ list ++ " FROM " ++ source.text " vw" ∧
      ∀ c ∈ t.chosen filter, c ∉ t.chosenRows filter → c.isPartition = true ∧ ∃ value,
        c.value = some value ∧ value ≠ "" ∧
        ⟨t.vocabulary.quoteColumn c.name, some value⟩ ∈ t.partitionEntries
  creation : ∀ source filter suffix, ∃ list, SelectList t.vocabulary (t.chosen filter) list ∧
    t.createAs source filter suffix = t.onRedshift "CREATE TABLE AS"
      ("CREATE TABLE IF NOT EXISTS " ++ t.reference suffix ++ t.propertyLines ++ " AS SELECT " ++
        list ++ " FROM " ++ source.text " AS vw" ++ ";")
  view : ∀ source filter suffix, ∃ list, SelectList t.vocabulary (t.chosen filter) list ∧
    t.createMaterializedView source filter suffix = t.onRedshift "CREATE MATERIALIZED VIEW"
      ("CREATE MATERIALIZED VIEW " ++ t.reference suffix ++ t.propertyLines ++ " AS SELECT " ++
        list ++ " FROM " ++ source.text " AS vw" ++ ";")
  upsert : ∀ o, ∃ list, SelectList t.vocabulary (t.chosen (t.upsertFilter o)) list ∧
    t.upsertSelect o = "WITH incremental_update AS (" ++ Statement.bare o.update ++ ") SELECT " ++
      list ++ " FROM incremental_update UNION ALL " ++ (t.upsert o).existingArm

/-! ### The items of a select -/

theorem select_declared (t : Table) (filter : Filter) :
    (t.select true filter).map (·.declared) = t.chosen filter := by
  rw [select, chosen, toInstance, List.filter_map]
  congr 1
  exact List.filter_congr fun c _ => by simp

theorem select_fed (t : Table) (filter : Filter) :
    (t.select true (filter.and (.custom isFedByRows))).map (·.declared) = t.chosenRows filter := by
  rw [select_declared, chosenRows, chosen, chosen, List.filter_filter]
  exact List.filter_congr fun c _ => by
    rw [Filter.accepts_and, Bool.and_comm]
    rfl

section Coherent

variable {t : Table} (ht : t.Coherent)
include ht

theorem Coherent.mem_select {filter : Filter} {b : BoundColumn} (hb : b ∈ t.select true filter) :
    Binding.ColumnCoherent (target t.dialect) b :=
  ht.columns b (List.mem_of_mem_filter hb)

/-- The load items of the columns that a filter lets through are those of their declarations. -/
theorem Coherent.loadItems (filter : Filter) :
    List.Forall₂ (LoadItem t.vocabulary) (t.chosen filter) (t.loadValues true filter) := by
  rw [loadValues, ← select_declared]
  exact Binding.forall₂_declared fun b hb => (ht.mem_select hb).loadItem

/-- They are a select list over these columns. -/
theorem Coherent.selectList (filter : Filter) : SelectList t.vocabulary
    ((t.select true filter).map (·.declared)) (String.intercalate ", " (t.loadValues true filter)) := by
  rw [select_declared]
  exact ⟨_, ht.loadItems filter, rfl⟩

theorem Coherent.quotedNames (filter : Filter) : (t.select true filter).map (·.quotedName) =
    ((t.select true filter).map (·.declared)).map fun c => t.vocabulary.quoteColumn c.name := by
  rw [List.map_map]
  exact List.map_congr_left fun b hb => (ht.mem_select hb).quotedName

theorem Coherent.nameList_select (filter : Filter) :
    String.intercalate ", " ((t.select true filter).map (·.quotedName)) =
      t.nameList ((t.select true filter).map (·.declared)) := by
  rw [nameList, ht.quotedNames]

end Coherent

/-! ### Each statement -/

theorem insertInto_text {t : Table} (hd : t.dialect ≠ .hive) (source : Source) (filter : Filter)
    (suffix : String) : t.insertInto source filter suffix = "INSERT INTO " ++ t.reference suffix ++
      " (" ++ t.nameList (t.chosen filter) ++ ") SELECT " ++
      String.intercalate ", " (t.loadValues true filter) ++ " FROM " ++ source.text " AS vw" ++
      t.dialect.terminator := by
  have hinsertion : t.insertion source filter suffix =
      { target := t.reference suffix
        columns := (t.columnNames true filter).map t.vocabulary.quoteColumn
        items := t.loadValues true filter
        source := source.text " AS vw"
        ending := t.dialect.terminator } := by
    rw [insertion]
    split
    · contradiction
    · rfl
  rw [insertInto, hinsertion, ← select_declared, nameList, List.map_map, columnNames, List.map_map]
  -- by its equation the text would be unfolded down to its characters
  delta Insertion.text
  simp only [partitionClause, List.isEmpty_nil, if_true, String.append_empty, String.append_assoc]
  rfl

theorem Coherent.hiveInsertInto_text {t : Table} (ht : t.Coherent) (hd : t.dialect = .hive)
    (source : Source) (filter : Filter) (suffix : String) :
    t.insertInto source filter suffix = "INSERT INTO " ++ t.reference suffix ++
      partitionClause t.partitionEntries ++ " (" ++ t.nameList (t.chosenRows filter) ++ ") SELECT " ++
      String.intercalate ", " (t.loadValues true (filter.and (.custom isFedByRows))) ++ " FROM " ++
      source.text " vw" := by
  have hinsertion : t.insertion source filter suffix =
      { target := t.reference suffix
        partition := t.partitionEntries
        columns := (t.select true (filter.and (.custom isFedByRows))).map (·.quotedName)
        items := t.loadValues true (filter.and (.custom isFedByRows))
        source := source.text " vw" } := by
    rw [insertion, hd]
  rw [insertInto, hinsertion, ← select_fed, ← ht.nameList_select]
  -- by its equation the text would be unfolded down to its characters
  delta Insertion.text
  simp only [String.append_empty, String.append_assoc]
  rfl

theorem loadQuery_text (t : Table) (source : Source) (filter : Filter) :
    (t.loadQuery source filter).text = "SELECT " ++
      String.intercalate ", " (t.loadValues true filter) ++ " FROM " ++ source.text " AS vw" := by
  rw [Query.text]
  simp [loadQuery, whereClause]

/-- A partition that the rows do not feed has a value, and the `PARTITION` clause gives it. -/
theorem Coherent.partitionEntry {t : Table} (ht : t.Coherent) {filter : Filter} {c : Column}
    (hc : c ∈ t.chosen filter) (hrows : c ∉ t.chosenRows filter) : c.isPartition = true ∧
      ∃ value, c.value = some value ∧ value ≠ "" ∧
        ⟨t.vocabulary.quoteColumn c.name, some value⟩ ∈ t.partitionEntries := by
  have hfed : isFedByRows c = false := by
    by_contra h
    exact hrows (List.mem_filter.2 ⟨hc, by simpa using h⟩)
  obtain ⟨hpartition, hvalue⟩ : c.isPartition = true ∧ c.currentValue?.isNone = false := by
    simpa [isFedByRows] using hfed
  obtain ⟨value, hcurrent⟩ := Option.isSome_iff_exists.1 (by simpa using hvalue)
  obtain ⟨hv, hne⟩ := Column.currentValue?_eq_some_iff.1 hcurrent
  refine ⟨hpartition, value, hv, hne, ?_⟩
  obtain ⟨b, hb, rfl⟩ := List.mem_map.1 (List.mem_of_mem_filter hc)
  refine List.mem_map.2 ⟨b, List.mem_filter.2 ⟨hb, hpartition⟩, ?_⟩
  rw [hcurrent, (ht.columns b hb).quotedName]
  rfl

theorem Coherent.loadsByPriority {t : Table} (ht : t.Coherent) : t.LoadsByPriority := by
  have hchosen : ∀ filter, SelectList t.vocabulary (t.chosen filter)
      (String.intercalate ", " (t.loadValues true filter)) :=
    fun filter => ⟨_, ht.loadItems filter, rfl⟩
  constructor
  case insertion =>
    intro hd source filter suffix
    exact ⟨_, hchosen filter, insertInto_text hd source filter suffix⟩
  case hiveInsertion =>
    intro hd source filter suffix
    refine ⟨_, ?_, ht.hiveInsertInto_text hd source filter suffix, fun c => ht.partitionEntry⟩
    rw [← select_fed]
    exact ht.selectList _
  case creation =>
    intro source filter suffix
    refine ⟨_, hchosen filter, ?_⟩
    rw [createAs, loadQuery_text]
    simp only [String.append_assoc]
    rfl
  case view =>
    intro source filter suffix
    refine ⟨_, hchosen filter, ?_⟩
    rw [createMaterializedView, loadQuery_text]
    simp only [String.append_assoc]
    rfl
  case upsert =>
    intro o
    exact ⟨_, hchosen (t.upsertFilter o), (t.upsert o).text_eq⟩

/-! ### Dropped columns -/

/-- Whether the column of the name is fed nothing but `NULL`, as the built-in setters word it. -/
structure LoadsNull (t : Table) (name : String) : Prop where
  item : ∀ c ∈ t.toInstance.columns, c.name = name → ∀ item, LoadItem t.vocabulary c item →
    item = t.vocabulary.assign name "NULL"
  worded : ∀ d ∈ [Dialect.presto, .trino, .redshift],
    t.vocabulary.columnSetter = d.vocabulary.columnSetter →
      t.vocabulary.assign name "NULL" = "NULL AS " ++ t.vocabulary.quoteColumn name
  hiveWorded : t.vocabulary.columnSetter = Dialect.hive.vocabulary.columnSetter →
    t.vocabulary.assign name "NULL" = "NULL " ++ t.vocabulary.quoteColumn name

theorem Dropping.loadsNull {t : Table} {name : String} (ht : t.Dropping name) : t.LoadsNull name := by
  constructor
  case item =>
    rintro c hc rfl item hitem
    exact hitem.of_dropped (ht.drops.columns c hc rfl)
  case worded =>
    intro d hd hsetter
    have hshared : d.vocabulary.columnSetter = Vocabulary.presto.columnSetter := by
      simp only [List.mem_cons, List.not_mem_nil, or_false] at hd
      rcases hd with rfl | rfl | rfl <;> rfl
    exact Vocabulary.assign_as (hsetter.trans hshared) name "NULL"
  case hiveWorded =>
    intro hsetter
    exact Vocabulary.assign_blank hsetter name "NULL"

/-- Every statement that loads a table that can come about feeds each chosen column, in order, the one item
that the priority of its declaration allows. A column that is dropped when it is loaded, in a history that
never sets it by hand, is therefore fed `NULL` by all of them, whatever its values and transforms are. -/
theorem loads_by_priority {t : Table} (ht : t.Reachable) :
    t.LoadsByPriority ∧ ∀ name, t.Dropping name → t.LoadsNull name :=
  ⟨ht.wellBound.coherent.loadsByPriority, fun _ h => h.loadsNull⟩

/-- The draft of a table of signups, with an address that is dropped though it has a transform. -/
def signups : Draft where
  name := "Signups"
  columns := [Column.scalar "id" .integer,
    { Column.scalar "email" .varchar with
      privacy := { dropOn := some .insert, onInsert := some "SHA1('')" } }]

/-- The shape of the draft. -/
def signupShape : Shape where
  name := "Signups"
  description := none
  namePrefix := ""
  columns := signups.columns
  properties := []
  policies := Policies.none
  prototype := some ⟨signups.columns, [], Policies.none⟩

/-- A table of that shape, with an initial value for the address. -/
def signupInstance : Instance where
  shape := signupShape
  schema := "web"
  columns := Instance.seed signups.columns ("email", "'unknown'")
  properties := []
  policies := Policies.none

theorem signups_load : ∃ t : Table, t.Reachable ∧ t.LoadsByPriority ∧ t.Dropping "email" ∧
    t.LoadsNull "email" ∧ t.insertInto (.table "web.events") .all "" =
      "INSERT INTO \"web\".\"signups\" (\"id\", \"email\") SELECT 7 AS \"id\", " ++
        "NULL AS \"email\" FROM web.events" := by
  have hbuild : signups.build = .ok signupShape := by cbv
  have hcreate : Instance.create signupShape "web" [("email", "'unknown'")] =
    .ok signupInstance := rfl
  have hbind : bind signupInstance .hive = .ok _ := rfl
  have hprototype : ∀ p, signupShape.prototype = some p → DropsName "email" p.columns := by
    intro p hp c hc hname
    rw [← Option.some.inj hp] at hc
    have hcases : c = signups.columns[0] ∨ c = signups.columns[1] := by
      simpa [signups] using hc
    rcases hcases with rfl | rfl
    · exact absurd hname (by decide)
    · exact ⟨rfl, rfl, rfl⟩
  have hbound := Dropping.bound (.created ⟨signups, hbuild⟩ hprototype hcreate) hbind
  have hset := hbound.step (.setValue "id" "7") (by decide : "id" ≠ "email")
  have hrun := hset.step (.rebind .presto) id
  have hload := loads_by_priority hrun.reachable
  refine ⟨_, hrun.reachable, hload.1, hrun, hload.2 "email" hrun, ?_⟩
  have hdialect : ∀ d, d = Dialect.presto → d ≠ .hive := by
    intro d hd hhive
    rw [hd] at hhive
    cases hhive
  exact (insertInto_text (hdialect _ rfl) _ _ _).trans (by cbv)

end Table

end Warehouse
