import Warehouse.Proofs.Column.Remainder
import Warehouse.Proofs.Statement.Overwrite

/-!
The two statements that remove personal data from a partition: an update of some columns in place, and in
Hive a select of whole rows that overwrites the partition. They are written apart from each other, and
rewrite the same columns in the same way: those that are no partitions and have a rule that acts on
deletion, each to what is left of it. All other columns are left out of the one and copied by the other.
-/

namespace Warehouse

/-- The columns that are no partitions, in order. -/
def regularOf (columns : List Column) : List Column := columns.filter fun c => !c.isPartition

/-- The columns that are no partitions and have a rule that acts on deletion, in order. -/
def personalOf (columns : List Column) : List Column := (regularOf columns).filter fun c => c.Personal

/-- The partitions that have no value, in order. -/
def openPartitionsOf (columns : List Column) : List Column :=
  columns.filter fun c => c.isPartition && c.currentValue?.isNone

/-- The entries of a `PARTITION` clause over all partitions among the columns. -/
def entriesOf (v : Vocabulary) (columns : List Column) : List PartitionEntry :=
  (columns.filter fun c => c.isPartition).map fun c => ⟨v.quoteColumn c.name, c.currentValue?⟩

/-- Whether the text assigns to a column what is left of it. -/
def AssignsRemainder (v : Vocabulary) (c : Column) (text : String) : Prop :=
  ∃ value, Remainder v c value ∧ text = v.quoteColumn c.name ++ " = " ++ value

/-- The item of a column in a select without personal data. -/
inductive AnonymousItem (v : Vocabulary) (c : Column) : String → Prop
  | rewritten {value : String} (h : Remainder v c value) : AnonymousItem v c (v.assign c.name value)
  | copied (h : ¬ c.Personal) : AnonymousItem v c (v.quoteColumn c.name)

theorem mem_personalOf {columns : List Column} {c : Column} :
    c ∈ personalOf columns ↔ c ∈ columns ∧ c.isPartition = false ∧ c.Personal := by
  simp only [personalOf, regularOf, List.mem_filter, Bool.not_eq_true', decide_eq_true_eq, and_assoc]

namespace Table

/-- The statement updates the partition in scope: it assigns to the columns with personal data, in order,
what is left of each, and to no others. -/
def UpdatesPersonal (t : Table) (scope : Scope) (columns : List Column) (sql : String) : Prop :=
  ∃ assignments, List.Forall₂ (AssignsRemainder t.vocabulary) (personalOf columns) assignments ∧
    sql = "UPDATE " ++ t.reference scope.suffix ++ " SET " ++ String.intercalate ", " assignments ++
      whereClause (t.scopedCondition scope " AND ") ++ t.dialect.terminator

/-- The statement overwrites a partition with a select of the partition in scope: it has one item for each
column that is no partition, in order, and then the names of the partitions that have no value. The others
stand in the `PARTITION` clause with their values. The condition may have lost blanks and semicolons at its
end. -/
def OverwritesPersonal (t : Table) (scope : Scope) (columns : List Column) (sql : String) : Prop :=
  ∃ items condition ending, List.Forall₂ (AnonymousItem t.vocabulary) (regularOf columns) items ∧
    sql = "INSERT OVERWRITE TABLE " ++ t.reference scope.suffix ++
      partitionClause (entriesOf t.vocabulary columns) ++ " " ++ ("SELECT " ++
        String.intercalate ", "
          (items ++ (openPartitionsOf columns).map fun c => t.vocabulary.quoteColumn c.name) ++
        " FROM " ++ t.reference scope.suffix ++ condition) ∧
    condition ++ ending = whereClause (t.scopedCondition scope " AND ") ∧
    ∀ c ∈ ending.toList, c = ';' ∨ Text.isBlank c = true

/-! ### Columns and their declarations -/

theorem select_regular (t : Table) :
    (t.select false .all).map (·.declared) = regularOf t.toInstance.columns := by
  rw [select, regularOf, toInstance, List.filter_map]
  exact congrArg _ (List.filter_congr fun c _ => by simp [Filter.accepts, BoundColumn.isPartition])

theorem personalColumns_declared (t : Table) :
    t.personalColumns.map (·.declared) = personalOf t.toInstance.columns := by
  rw [personalColumns, personalOf, ← select_regular, List.filter_map]
  refine congrArg _ (List.filter_congr fun c _ => ?_)
  rw [Bool.eq_iff_iff, Function.comp_apply, decide_eq_true_iff, BoundColumn.hasDeleteRule,
    Column.hasDeleteRule_iff]

/-- There is nothing to do when no column has personal data. -/
theorem anonymisePartition_eq_none {t : Table} {scope : Scope} :
    t.anonymisePartition scope = none ↔ personalOf t.toInstance.columns = [] := by
  rw [← personalColumns_declared, List.map_eq_nil_iff, anonymisePartition, ← List.isEmpty_iff]
  split
  · next h => exact iff_of_true rfl h
  · next h => split <;> exact iff_of_false (Option.some_ne_none _) h

/-- A name that statements mean the table by ends in a quotation mark. -/
theorem reference_getLast? (t : Table) (suffix : String) :
    (t.reference suffix).toList.getLast? = some t.vocabulary.tableQuote.mark := by
  simp only [reference, fullName, qualify, if_true, Vocabulary.quoteTable, QuoteStyle.quote,
    QuoteStyle.quoteChars, String.toList_append, String.toList_ofList]
  rw [List.getLast?_append, ← List.cons_append, List.getLast?_concat]
  rfl

/-- The select that Hive overwrites a partition with is kept up to its condition. -/
theorem anonymousQuery_bare (t : Table) (scope : Scope) : ∃ condition ending,
    Statement.bare (t.anonymousQuery scope).text = "SELECT " ++
      String.intercalate ", " (t.anonymousQuery scope).items ++ " FROM " ++ t.reference scope.suffix ++
        condition ∧
    condition ++ ending = whereClause (t.scopedCondition scope " AND ") ∧
    ∀ c ∈ ending.toList, c = ';' ∨ Text.isBlank c = true := by
  rw [anonymousQuery_text, ← scopedCondition_eq t scope separates_and]
  refine Statement.bare_keeps 'S' t.vocabulary.tableQuote.mark ?_ ?_ (by decide) ?_ ?_ _
  · simp
  · rw [String.toList_append, List.getLast?_append, t.reference_getLast? scope.suffix]
    rfl
  · cases t.vocabulary.tableQuote <;> decide
  · cases t.vocabulary.tableQuote <;> decide

section Coherent

variable {t : Table} (ht : t.Coherent) {scope : Scope} {sql : String}
include ht

theorem Coherent.entriesOf_eq : t.partitionEntries = entriesOf t.vocabulary t.toInstance.columns := by
  rw [partitionEntries, partitions, entriesOf, toInstance, List.filter_map, List.map_map]
  refine List.map_congr_left fun b hb => ?_
  rw [(ht.columns b (List.mem_of_mem_filter hb)).quotedName]
  rfl

/-- The partitions that a select of Hive lists, by name. -/
theorem Coherent.openPartitions_eq :
    (t.partitions.filter fun p => p.declared.currentValue?.isNone).map (·.quotedName) =
      (openPartitionsOf t.toInstance.columns).map fun c => t.vocabulary.quoteColumn c.name := by
  rw [partitions, openPartitionsOf, toInstance, List.filter_map, List.map_map, List.filter_filter]
  have hfilter : ∀ b ∈ t.columns, (b.declared.currentValue?.isNone && b.isPartition) =
      ((fun c : Column => c.isPartition && c.currentValue?.isNone) ∘ (·.declared)) b :=
    fun b _ => Bool.and_comm _ _
  rw [List.filter_congr hfilter]
  exact List.map_congr_left fun b hb => (ht.columns b (List.mem_of_mem_filter hb)).quotedName

theorem Coherent.anonymousItem_select {b : BoundColumn} (hb : b ∈ t.columns) :
    AnonymousItem t.vocabulary b.declared (anonymousItem b) := by
  have hcoherent := ht.columns b hb
  rw [anonymousItem]
  split
  · next hrule =>
    rw [hcoherent.setter]
    exact .rewritten (hcoherent.remainder (b.declared.hasDeleteRule_iff.1 hrule))
  · next hrule =>
    rw [hcoherent.quotedName]
    exact .copied (mt b.declared.hasDeleteRule_iff.2 hrule)

/-- In place, personal data is removed by an update. -/
theorem Coherent.updatesPersonal (hd : t.dialect ≠ .hive) (h : t.anonymisePartition scope = some sql) :
    t.UpdatesPersonal scope t.toInstance.columns sql := by
  rw [anonymisePartition] at h
  split at h
  · cases h
  · split at h
    · contradiction
    · cases h
      refine ⟨t.personalColumns.map fun c => c.quotedName ++ " = " ++ c.deleteValue, ?_, ?_⟩
      · rw [← personalColumns_declared]
        refine Binding.forall₂_declared fun b hb => ?_
        have hmem := mem_personalOf.1 (t.personalColumns_declared ▸ List.mem_map_of_mem hb)
        have hcoherent := ht.columns b (List.mem_of_mem_filter (List.mem_of_mem_filter hb))
        exact ⟨b.deleteValue, hcoherent.remainder hmem.2.2, by rw [hcoherent.quotedName]; rfl⟩
      · rw [anonymisation, Update.text, List.map_map]
        rfl

/-- In Hive, personal data is removed by overwriting the partition. -/
theorem Coherent.overwritesPersonal (hd : t.dialect = .hive)
    (h : t.anonymisePartition scope = some sql) :
    t.OverwritesPersonal scope t.toInstance.columns sql := by
  rw [anonymisePartition, hd] at h
  split at h
  · cases h
  · cases h
    have hitems : (t.anonymousQuery scope).items = (t.select false .all).map anonymousItem ++
        (openPartitionsOf t.toInstance.columns).map fun c => t.vocabulary.quoteColumn c.name := by
      rw [← ht.openPartitions_eq]
      rfl
    obtain ⟨condition, ending, hbare, hcondition, hending⟩ := t.anonymousQuery_bare scope
    refine ⟨(t.select false .all).map anonymousItem, condition, ending, ?_, ?_, hcondition, hending⟩
    · rw [← select_regular]
      exact Binding.forall₂_declared fun b hb => ht.anonymousItem_select (List.mem_of_mem_filter hb)
    · rw [← hitems, ← hbare, ← ht.entriesOf_eq]
      rfl

end Coherent

/-- What removing personal data does to a table of these columns, in Hive and in a dialect of the standard
wording. -/
structure AnonymisedAlike (columns : List Column) (hive other : Table) (scope : Scope) : Prop where
  /-- Neither has anything to do when all columns with personal data are partitions. -/
  hiveIdle : hive.anonymisePartition scope = none ↔ ∀ c ∈ columns, c.Personal → c.isPartition = true
  otherIdle : other.anonymisePartition scope = none ↔ ∀ c ∈ columns, c.Personal → c.isPartition = true
  /-- The one assigns to the other columns with personal data and to none else. -/
  update : ∀ sql, other.anonymisePartition scope = some sql → other.UpdatesPersonal scope columns sql
  /-- The other sets these very columns, copies the rest, and names the partitions. -/
  overwrite : ∀ sql, hive.anonymisePartition scope = some sql → hive.OverwritesPersonal scope columns sql
  hiveWorded : ∀ name value,
    hive.vocabulary.assign name value = value ++ " " ++ hive.vocabulary.quoteColumn name
  /-- In either vocabulary there is one expression for what is left of such a column. -/
  remainder : ∀ c ∈ personalOf columns, ∀ v, ∃! value, Remainder v c value
  /-- Partitions are rewritten by neither, and those without a value are named. -/
  partitions : ∀ c ∈ columns, c.isPartition = true → c ∉ personalOf columns ∧ c ∉ regularOf columns ∧
    (c ∈ openPartitionsOf columns ↔ c.currentValue? = none)

theorem anonymisePartition_idle {t : Table} (scope : Scope) :
    t.anonymisePartition scope = none ↔
      ∀ c ∈ t.toInstance.columns, c.Personal → c.isPartition = true := by
  rw [anonymisePartition_eq_none, List.eq_nil_iff_forall_not_mem]
  refine forall_congr' fun c => ?_
  rw [mem_personalOf]
  cases c.isPartition <;> simp

/-- Bound to Hive and to another dialect, an instance loses its personal data from the same columns by the
same expressions. -/
theorem anonymised_alike {i : Instance} {d : Dialect} (hd : d ≠ .hive) {hive other : Table}
    (hhive : bind i .hive = .ok hive) (hother : bind i d = .ok other) (scope : Scope) :
    AnonymisedAlike i.columns hive other scope := by
  obtain ⟨hcoherent, hdialect, rfl⟩ := bind_eq_ok_iff.1 hhive
  obtain ⟨hcoherent', rfl, hinstance⟩ := bind_eq_ok_iff.1 hother
  rw [← hinstance]
  constructor
  case hiveIdle => rw [hinstance]; exact anonymisePartition_idle scope
  case otherIdle => exact anonymisePartition_idle scope
  case update => exact fun sql h => hcoherent'.updatesPersonal hd h
  case overwrite =>
    intro sql h
    rw [hinstance]
    exact hcoherent.overwritesPersonal hdialect h
  case hiveWorded =>
    intro name value
    exact Vocabulary.assign_blank (by rw [vocabulary, hdialect]; rfl) name value
  case remainder => exact fun c hc v => (mem_personalOf.1 hc).2.2.remainder v
  case partitions =>
    intro c hc hp
    have hregular : c ∉ regularOf other.toInstance.columns := by simp [regularOf, hp]
    refine ⟨fun h => hregular (List.mem_of_mem_filter h), hregular, ?_⟩
    simp [openPartitionsOf, hc, hp]

/-! ### A table of guests -/

/-- The draft of a table of guests with these columns, by day and country, of which personal data is to be
removed in time. -/
def guests (columns : List Column) : Draft where
  name := "Guests"
  columns := columns ++ [(Column.scalar "ds" .varchar).asPartition,
    { (Column.scalar "country" .varchar).asPartition with
      value := some "'nl'"
      privacy := { dropOn := some .delete } }]
  policies := { anonymisation := some (visitExpiry [("ds", "'2020-01-01'")]) }

/-- The shape of the draft. -/
def guestShape (columns : List Column) : Shape where
  name := "Guests"
  description := none
  namePrefix := ""
  columns := (guests columns).columns
  properties := []
  policies := (guests columns).policies
  prototype := some ⟨(guests columns).columns, [], (guests columns).policies⟩

/-- A table of that shape. -/
def guestInstance (columns : List Column) : Instance where
  shape := guestShape columns
  schema := "web"
  columns := (guests columns).columns
  properties := []
  policies := (guests columns).policies

/-- Columns of which one is cut short on deletion and one is dropped, though it has a transform. -/
def guestColumns : List Column :=
  [Column.scalar "id" .integer,
    { Column.scalar "name" .varchar with
      privacy := { onDelete := some "SUBSTR(\x7bquoted_name\x7d, 1, 1)" } },
    { Column.scalar "email" .varchar with
      privacy := { dropOn := some .delete, onDelete := some "SHA1(\x7bquoted_name\x7d)" } }]

/-- The scope of one day. -/
def guestDay : Scope where
  params := Dict.ofList [("ds", "'2020-01-01'")]

theorem guests_anonymised_alike : ∃ (hive presto : Table) (sql : String),
    bind (guestInstance guestColumns) .hive = .ok hive ∧
    bind (guestInstance guestColumns) .presto = .ok presto ∧
    AnonymisedAlike (guestInstance guestColumns).columns hive presto guestDay ∧
    presto.anonymisePartition guestDay =
      some ("UPDATE \"web\".\"guests\" SET \"name\" = SUBSTR(\"name\", 1, 1), \"email\" = NULL " ++
        "WHERE \"ds\" = '2020-01-01' AND \"country\" = 'nl'") ∧
    hive.anonymisePartition guestDay = some sql ∧
    (hive.anonymousQuery guestDay).items = ["\x60id\x60", "SUBSTR(\x60name\x60, 1, 1) \x60name\x60",
      "NULL \x60email\x60", "\x60ds\x60"] := by
  have hhive : bind (guestInstance guestColumns) .hive = .ok _ := rfl
  have hpresto : bind (guestInstance guestColumns) .presto = .ok _ := rfl
  exact ⟨_, _, _, hhive, hpresto, anonymised_alike Dialect.noConfusion hhive hpresto guestDay, by cbv,
    rfl, by cbv⟩

end Table

end Warehouse
