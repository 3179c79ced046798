import Mathlib
import Warehouse.Proofs.Statement.Restriction
import Warehouse.Proofs.Table.Reachable
import Warehouse.Statement.View

/-!
The statements about the partition in scope are written by different routes: the deletion fills its condition
in last, the others start from a condition that has been filled in. All the same they ask for one condition,
word for word, and this condition is read off the partitions of the table alone.
-/

namespace Warehouse

theorem whereClause_of_ne {condition : String} (h : condition ≠ "") :
    whereClause condition = " WHERE " ++ condition :=
  if_neg h

namespace Table

/-- The text of a select without an order or a limit, for the rows of a condition. -/
def selectOf (t : Table) (o : SelectOptions) (condition : String) : String :=
  "SELECT " ++ String.intercalate ", " ((t.select true o.filter).map (·.selectItem o.transforms)) ++
    " FROM " ++ t.reference o.suffix ++ " WHERE " ++ condition

/-- The statements about the partition in scope, each for the rows of the condition and no others. -/
structure AskFor (t : Table) (scope : Scope) (condition : String) : Prop where
  delete : t.deletePartition scope =
    "DELETE FROM " ++ t.reference scope.suffix ++ " WHERE " ++ condition ++ t.dialect.terminator
  anonymise : ∀ sql, t.anonymisePartition scope = some sql → sql =
    "UPDATE " ++ t.reference scope.suffix ++ " SET " ++
      String.intercalate ", " (t.personalColumns.map fun c => c.quotedName ++ " = " ++ c.deleteValue) ++
      " WHERE " ++ condition ++ t.dialect.terminator
  select : ∀ filter suffix transforms, t.selectPartition { filter, suffix, transforms } scope =
    t.selectOf { filter, suffix, transforms } condition
  view : ∀ suffix transforms securityInvoker,
    t.createView { suffix, scope, transforms, securityInvoker } =
      "CREATE OR REPLACE VIEW " ++ t.reference suffix ++
        (if securityInvoker then " SECURITY INVOKER" else "") ++ " AS " ++
        t.selectOf { transforms } condition ++ t.dialect.terminator

/-- What the condition of a scope is read off: the quoting of columns, and the names and values of the
partitions in their order. -/
def conditionSource (t : Table) : QuoteStyle × List (String × Option String) :=
  (t.vocabulary.columnQuote, t.partitions.map fun p => (p.name, p.declared.value))

/-! ### One condition -/

section NonEmpty

variable {t : Table} {scope : Scope} (hne : t.scopedCondition scope " AND " ≠ "")
include hne

/-- A condition that is not empty once it is filled in was not empty before. -/
theorem partitionCondition_ne_empty :
    t.partitionCondition scope.condition scope.ignored " AND " ≠ "" := by
  intro hempty
  rw [scopedCondition, hempty] at hne
  exact hne (by simp [Template.substitute, Template.substituteChars, Template.pieces])

theorem deletePartition_scoped (hd : t.dialect ≠ .hive) : t.deletePartition scope =
    "DELETE FROM " ++ t.reference scope.suffix ++ " WHERE " ++ t.scopedCondition scope " AND " ++
      t.dialect.terminator := by
  have hcondition : (t.deletion (t.partitionDeleteOptions scope)).condition =
      some (t.scopedCondition scope " AND ") := by
    have hpartition := partitionCondition_ne_empty hne
    simp [deletion, partitionDeleteOptions, hpartition, scopedCondition]
  rw [deletePartition_eq hd, deleteFrom]
  -- by its equation the text would be unfolded down to its characters
  delta Deletion.text
  rw [hcondition]
  simp [deletion, partitionDeleteOptions, String.append_assoc]

theorem anonymisePartition_scoped (hd : t.dialect ≠ .hive) {sql : String}
    (h : t.anonymisePartition scope = some sql) : sql =
      "UPDATE " ++ t.reference scope.suffix ++ " SET " ++
        String.intercalate ", " (t.personalColumns.map fun c => c.quotedName ++ " = " ++ c.deleteValue) ++
        " WHERE " ++ t.scopedCondition scope " AND " ++ t.dialect.terminator := by
  rw [anonymisePartition] at h
  split at h
  · cases h
  · split at h
    · contradiction
    · cases h
      rw [Update.text, anonymisation, List.map_map, whereClause_of_ne hne]
      simp only [Function.comp_def, String.append_assoc]

theorem selectPartition_scoped {o : SelectOptions} (hcondition : o.condition = none)
    (horder : o.orderBySortkey = false) (hlimit : o.limit = none) (hstar : o.useStar = false) :
    t.selectPartition o scope = t.selectOf o (t.scopedCondition scope " AND ") := by
  have hquery : t.query (t.scopedOptions o scope) =
      { items := (t.select true o.filter).map (·.selectItem o.transforms)
        source := t.reference o.suffix
        condition := t.scopedCondition scope " AND " } := by
    simp [query, scopedOptions, hcondition, horder, hlimit, hstar, hne]
  rw [selectPartition, selectText, hquery, Query.text, whereClause_of_ne hne, selectOf]
  simp [String.append_assoc]

theorem createView_scoped (hd : t.dialect ≠ .hive) {o : ViewOptions} (ho : o.scope = scope) :
    t.createView o = "CREATE OR REPLACE VIEW " ++ t.reference o.suffix ++
      (if o.securityInvoker then " SECURITY INVOKER" else "") ++ " AS " ++
      t.selectOf { transforms := o.transforms } (t.scopedCondition scope " AND ") ++
      t.dialect.terminator := by
  have hselect := selectPartition_scoped hne (o := { transforms := o.transforms }) rfl rfl rfl rfl
  -- by its equation the text would be unfolded down to its characters
  delta createView
  rw [ho, hselect]
  split
  · contradiction
  · rfl

theorem asksFor_scopedCondition (hd : t.dialect ≠ .hive) :
    t.AskFor scope (t.scopedCondition scope " AND ") := by
  constructor
  case delete => exact deletePartition_scoped hne hd
  case anonymise => exact fun sql h => anonymisePartition_scoped hne hd h
  case select => exact fun filter suffix transforms => selectPartition_scoped hne rfl rfl rfl rfl
  case view =>
    intro suffix transforms security
    exact createView_scoped (o := { suffix, scope, transforms, securityInvoker := security }) hne hd rfl

end NonEmpty

/-! ### What the condition rests on -/

theorem partitionParams_source (t : Table) (params : Dict String) : t.partitionParams params =
    (Dict.ofList (t.conditionSource.2.filterMap fun e => e.2.map fun v => (e.1, v))).union params := by
  rw [partitionParams, conditionSource, List.filterMap_map]
  rfl

theorem WellBound.partitionConditions_source {t : Table} (ht : t.WellBound) (condition : Option String)
    (ignored : List String) : t.partitionConditions condition ignored =
      ((t.conditionSource.2.filter fun e => !ignored.contains e.1).map fun e =>
        t.conditionSource.1.quote e.1 ++ " = " ++ Template.slot e.1) ++
          (condition.filter (· != "")).toList := by
  have hcomparisons : (t.partitions.filter fun p => !ignored.contains p.name).map
      (fun p => p.quotedName ++ " = " ++ Template.slot p.name) =
        (t.partitions.filter fun p => !ignored.contains p.name).map
          fun p => t.vocabulary.columnQuote.quote p.name ++ " = " ++ Template.slot p.name := by
    refine List.map_congr_left fun p hp => ?_
    rw [ht.quotedName (List.mem_of_mem_filter (List.mem_of_mem_filter hp)), Vocabulary.quoteColumn]
  rw [partitionConditions, hcomparisons, conditionSource, List.filter_map, List.map_map]
  rfl

/-- Tables that agree in their partitions have the same condition, whatever their other columns are. -/
theorem WellBound.scopedCondition_congr {t u : Table} (ht : t.WellBound) (hu : u.WellBound)
    (h : u.conditionSource = t.conditionSource) (scope : Scope) (separator : String) :
    u.scopedCondition scope separator = t.scopedCondition scope separator := by
  rw [scopedCondition, scopedCondition, partitionCondition, partitionCondition,
    hu.partitionConditions_source, ht.partitionConditions_source, partitionParams_source,
    partitionParams_source, h]

theorem conditionSource_congr {t u : Table} (hdialect : u.dialect = t.dialect)
    (hpartitions : u.partitions = t.partitions) : u.conditionSource = t.conditionSource := by
  rw [conditionSource, conditionSource, vocabulary, vocabulary, hdialect, hpartitions]

theorem conditionSource_setValue {t t' : Table} {name value : String}
    (hname : ∀ p ∈ t.partitions, p.name ≠ name) (h : t.setValue name value = .ok () t') :
    t'.conditionSource = t.conditionSource := by
  have hpartitions := partitions_setValue (fun c hc => ?_) h
  · obtain ⟨columns, _, rfl⟩ := setValue_ok h
    exact conditionSource_congr rfl hpartitions
  · by_contra hpartition
    have hmem : c ∈ t.partitions := List.mem_filter.2 ⟨List.mem_of_find?_eq_some hc, by simpa using hpartition⟩
    exact hname c hmem (by simpa using List.find?_some hc)

theorem conditionSource_addColumn {t t' : Table} {c : Column} (hc : c.isPartition = false)
    (h : t.addColumn c = .ok () t') : t'.conditionSource = t.conditionSource := by
  have hpartitions := partitions_addColumn hc h
  obtain ⟨_, _, b, _, rfl⟩ := addColumn_ok h
  exact conditionSource_congr rfl hpartitions

/-- The condition of a scope rests on the partitions of the table. -/
structure RestsOnPartitions (t : Table) (scope : Scope) : Prop where
  /-- It is the same for any table that can come about with these partitions in this order. -/
  source : ∀ u : Table, u.Reachable → u.conditionSource = t.conditionSource →
    u.scopedCondition scope " AND " = t.scopedCondition scope " AND "
  /-- So neither a value for another column nor a further column changes it. -/
  valueSet : ∀ name value t', (∀ p ∈ t.partitions, p.name ≠ name) → t.setValue name value = .ok () t' →
    t'.scopedCondition scope " AND " = t.scopedCondition scope " AND "
  columnAdded : ∀ c t', c.isPartition = false → t.addColumn c = .ok () t' →
    t'.scopedCondition scope " AND " = t.scopedCondition scope " AND "

/-- Outside Hive all statements about the partition in scope ask for the condition of the scope and for
nothing else, and this condition rests on the partitions. -/
theorem one_condition {t : Table} (ht : t.Reachable) (hd : t.dialect ≠ .hive) {scope : Scope}
    (hne : t.scopedCondition scope " AND " ≠ "") :
    t.AskFor scope (t.scopedCondition scope " AND ") ∧ t.RestsOnPartitions scope := by
  have hbound := ht.wellBound
  refine ⟨asksFor_scopedCondition hne hd, ?_⟩
  constructor
  case source =>
    intro u hu hsource
    exact hbound.scopedCondition_congr hu.wellBound hsource scope " AND "
  case valueSet =>
    intro name value t' hname h
    exact hbound.scopedCondition_congr (hbound.setValue h) (conditionSource_setValue hname h) scope " AND "
  case columnAdded =>
    intro c t' hc h
    exact hbound.scopedCondition_congr (hbound.addColumn h) (conditionSource_addColumn hc h) scope " AND "

/-- The scope of visits on one day and in any country, with a condition of its own. -/
def lateVisits : Scope where
  condition := some "\"id\" > \x7blow\x7d"
  params := Dict.ofList [("ds", "'2020-01-01'"), ("low", "7")]
  ignored := ["country"]
  suffix := "_v2"

/-- The condition on the visits in this scope. -/
def lateCondition : String := "\"ds\" = '2020-01-01' AND \"id\" > 7"

/-- Another table of the same partitions: a column of times, and no personal data. -/
def arrivals : Draft where
  name := "Arrivals"
  columns := [Column.scalar "at" .timestamp, (Column.scalar "ds" .varchar).asPartition,
    { (Column.scalar "country" .varchar).asPartition with value := some "'nl'" }]

/-- The shape of the draft. -/
def arrivalShape : Shape where
  name := "Arrivals"
  description := none
  namePrefix := ""
  columns := arrivals.columns
  properties := []
  policies := Policies.none
  prototype := some ⟨arrivals.columns, [], Policies.none⟩

/-- A table of that shape. -/
def arrivalInstance : Instance where
  shape := arrivalShape
  schema := "web"
  columns := arrivals.columns
  properties := []
  policies := Policies.none

theorem arrivalInstance_declared : arrivalInstance.Declared := by
  have hbuild : arrivals.build = .ok arrivalShape := by cbv
  have hcreate : Instance.create arrivalShape "web" [] = .ok arrivalInstance := rfl
  exact .created ⟨arrivals, hbuild⟩ hcreate

theorem visits_one_condition : ∃ t u : Table, t.Reachable ∧ u.Reachable ∧ t.dialect.name = "presto" ∧
    u.dialect.name = "trino" ∧ u.columns.map (·.name) = ["at", "ds", "country"] ∧
    t.scopedCondition lateVisits " AND " = lateCondition ∧
    u.scopedCondition lateVisits " AND " = lateCondition ∧
    t.AskFor lateVisits lateCondition := by
  obtain ⟨t, ht, hname, hcondition, hsource⟩ : ∃ t : Table, t.Reachable ∧ t.dialect.name = "presto" ∧
      t.scopedCondition lateVisits " AND " = lateCondition ∧
      t.conditionSource = (.doubleQuote, [("ds", none), ("country", some "'nl'")]) := by
    have hbind : bind visitInstance .presto = .ok _ := rfl
    exact ⟨_, .bound visitInstance_declared hbind, rfl, by cbv, rfl⟩
  obtain ⟨u, hu, huname, hucolumns, husource⟩ : ∃ u : Table, u.Reachable ∧ u.dialect.name = "trino" ∧
      u.columns.map (·.name) = ["at", "ds", "country"] ∧
      u.conditionSource = (.doubleQuote, [("ds", none), ("country", some "'nl'")]) := by
    have hbind : bind arrivalInstance .trino = .ok _ := rfl
    exact ⟨_, .bound arrivalInstance_declared hbind, rfl, rfl, rfl⟩
  have hd : t.dialect ≠ .hive := by
    intro h
    rw [h] at hname
    exact absurd hname (by decide)
  have hne : t.scopedCondition lateVisits " AND " ≠ "" := by
    rw [hcondition]
    decide
  obtain ⟨hask, hrests⟩ := one_condition ht hd hne
  refine ⟨t, u, ht, hu, hname, huname, hucolumns, hcondition, ?_, ?_⟩
  · rw [hrests.source u hu (husource.trans hsource.symm), hcondition]
  · rwa [hcondition] at hask

end Table

end Warehouse
