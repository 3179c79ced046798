import Warehouse.Proofs.Statement.Merge

/-!
What a merge makes of the existing rows that it keeps. They are read by their names, but from the table
without the suffix of the scope, and then taken through the load items of their columns once more. So a
value comes out as it went in exactly when the column is copied on loading; a rule, a value of a partition
or one set by hand acts on stored rows just as it does on new ones.
-/

namespace Warehouse

/-- Whether loading copies the column: a partition has no value, and any other column was not set by hand
and has no rule that acts on insertion. -/
def Column.Copied (c : Column) : Prop :=
  if c.isPartition = true then ∀ value, c.value = some value → value = ""
  else c.manuallySet = false ∧ c.privacy.dropOn ≠ some .insert ∧ c.privacy.onInsert = none

/-- The load item of a column is its name when the column is copied, and else assigns something to it. -/
theorem LoadItem.copied_or_assigned {v : Vocabulary} {c : Column} {item : String} (h : LoadItem v c item) :
    (c.Copied ∧ item = v.quoteColumn c.name) ∨ (¬ c.Copied ∧ ∃ value, item = v.assign c.name value) := by
  cases h with
  | partitionValue hp hv hne => exact .inr ⟨by simp [Column.Copied, hp, hv, hne], _, rfl⟩
  | partitionRows hp hv => exact .inl ⟨by rwa [Column.Copied, if_pos hp], rfl⟩
  | handSet hp hm hv hne => exact .inr ⟨by simp [Column.Copied, hp, hm], _, rfl⟩
  | handEmptied hp hm hv => exact .inr ⟨by simp [Column.Copied, hp, hm], _, rfl⟩
  | dropped hp hm hd => exact .inr ⟨by simp [Column.Copied, hp, hd], _, rfl⟩
  | transformed hp hm hd ht => exact .inr ⟨by simp [Column.Copied, hp, ht], _, rfl⟩
  | copied hp hm hd ht => exact .inl ⟨by simp [Column.Copied, hp, hm, hd, ht], rfl⟩

/-- Whether the vocabulary assigns in the words of a built-in dialect. -/
def Vocabulary.AssignsInOrder (v : Vocabulary) : Prop :=
  v.columnSetter = Vocabulary.presto.columnSetter ∨ v.columnSetter = Vocabulary.hive.columnSetter

theorem Vocabulary.assign_ne_quoteColumn {v : Vocabulary} (h : v.AssignsInOrder) (name value : String) :
    v.assign name value ≠ v.quoteColumn name := by
  intro heq
  have hlength := congrArg String.length heq
  rcases h with h | h
  · rw [assign_as h, String.length_append, String.length_append,
      show " AS ".length = 4 from rfl] at hlength
    omega
  · rw [assign_blank h, String.length_append, String.length_append,
      show " ".length = 1 from rfl] at hlength
    omega

/-- In these words the item tells whether the column is copied. -/
theorem LoadItem.bare_iff {v : Vocabulary} (hv : v.AssignsInOrder) {c : Column} {item : String}
    (h : LoadItem v c item) : item = v.quoteColumn c.name ↔ c.Copied := by
  rcases h.copied_or_assigned with ⟨hc, rfl⟩ | ⟨hc, value, rfl⟩
  · exact iff_of_true rfl hc
  · exact iff_of_false (Vocabulary.assign_ne_quoteColumn hv c.name value) hc

/-- Load items are the names of their columns when all of these are copied. -/
theorem LoadItem.all_bare_iff {v : Vocabulary} (hv : v.AssignsInOrder) {columns : List Column}
    {items : List String} (h : List.Forall₂ (LoadItem v) columns items) :
    items = columns.map (fun c => v.quoteColumn c.name) ↔ ∀ c ∈ columns, c.Copied := by
  induction h with
  | nil => simp
  | cons hitem _ ih => rw [List.map_cons, List.cons.injEq, ih, hitem.bare_iff hv, List.forall_mem_cons]

namespace Table

/-- Tables of different suffixes go by different names. -/
theorem reference_inj {t : Table} {a b : String} : t.reference a = t.reference b ↔ a = b := by
  constructor
  · intro h
    simp only [reference, fullName, qualify, if_true, Vocabulary.quoteTable] at h
    exact (String.append_right_inj _).1
      (t.vocabulary.tableQuote.quote_inj ((String.append_right_inj _).1 h))
  · rintro rfl
    rfl

/-- Without transforms the existing rows are read by their names. -/
theorem Coherent.existing_bare {t : Table} (ht : t.Coherent) {o : UpsertOptions}
    (ho : o.transforms = Dict.empty) : (t.upsert o).existing = "SELECT " ++
      t.nameList (t.chosen (t.upsertFilter o)) ++ " FROM " ++ t.reference "" ++
        whereClause (t.scopedCondition o.scope " AND ") := by
  have hitems : (t.select true (t.upsertFilter o)).map (·.selectItem o.transforms) =
      (t.select true (t.upsertFilter o)).map (·.quotedName) :=
    List.map_congr_left fun b _ => by rw [ho]; rfl
  rw [existing_text, hitems, ht.nameList_select, select_declared]

/-- What a merge makes of existing rows. -/
structure ReloadsExisting (t : Table) (o : UpsertOptions) : Prop where
  /-- They are read by name from the table without a suffix, under the condition of the scope, and then
  loaded: both arms of the merge have the same items. -/
  statement : ∃ items, List.Forall₂ (LoadItem t.vocabulary) (t.chosen (t.upsertFilter o)) items ∧
    t.upsertSelect o = "WITH incremental_update AS (" ++ Statement.bare o.update ++ ") SELECT " ++
      String.intercalate ", " items ++ " FROM incremental_update UNION ALL SELECT " ++
      String.intercalate ", " items ++ " FROM (SELECT " ++ t.nameList (t.chosen (t.upsertFilter o)) ++
      " FROM " ++ t.reference "" ++ whereClause (t.scopedCondition o.scope " AND ") ++ ") AS d" ++
      antiJoin t.vocabulary (t.joinedKeys o)
  /-- This is the table of the scope only if the scope has no suffix. -/
  source : t.reference "" = t.reference o.scope.suffix ↔ o.scope.suffix = ""
  /-- A column that is copied on loading stays as it is, and to any other something is assigned. -/
  item : ∀ c item, LoadItem t.vocabulary c item →
    (c.Copied ∧ item = t.vocabulary.quoteColumn c.name) ∨
      (¬ c.Copied ∧ ∃ value, item = t.vocabulary.assign c.name value)
  /-- So in the words of the built-in dialects all values stay exactly when all columns are copied. -/
  unchanged : t.vocabulary.AssignsInOrder → ∀ items,
    List.Forall₂ (LoadItem t.vocabulary) (t.chosen (t.upsertFilter o)) items →
      (items = (t.chosen (t.upsertFilter o)).map (fun c => t.vocabulary.quoteColumn c.name) ↔
        ∀ c ∈ t.chosen (t.upsertFilter o), c.Copied)

/-- A merge without transforms takes the existing rows of the table through its load items again. -/
theorem merge_reloads_existing {t : Table} (ht : t.Reachable) {o : UpsertOptions}
    (ho : o.transforms = Dict.empty) : t.ReloadsExisting o := by
  have hcoherent := ht.wellBound.coherent
  constructor
  case statement =>
    refine ⟨_, hcoherent.loadItems (t.upsertFilter o), ?_⟩
    rw [upsertSelect, Upsert.text_eq, hcoherent.existingArm_eq, hcoherent.existing_bare ho]
    simp only [String.append_assoc]
    rfl
  case source => exact reference_inj.trans eq_comm
  case item => exact fun c item h => h.copied_or_assigned
  case unchanged => exact fun hv items h => LoadItem.all_bare_iff hv h

/-- A column that is added to a table of visits and is transformed on insertion. -/
def address : Column :=
  { Column.scalar "address" .varchar with privacy := { onInsert := some "SHA1(\x7bquoted_name\x7d)" } }

/-- A merge of visits in another version of the table. -/
def otherMerge (names : List String) : UpsertOptions where
  update := "SELECT * FROM incoming"
  primaryKeys := ["id"]
  filter := some (.only names)
  scope := { params := Dict.ofList [("ds", "'2020-01-01'")], suffix := "_v2" }

/-- The condition on an existing visit that no new one has its key. -/
def withoutCounterpart : String :=
  " WHERE NOT EXISTS (SELECT 1 FROM incremental_update AS u WHERE u.\"id\" = d.\"id\")"

theorem visits_reload_existing : ∃ t : Table, t.Reachable ∧ (otherMerge ["id"]).transforms = Dict.empty ∧
    t.ReloadsExisting (otherMerge ["id"]) ∧ t.vocabulary.AssignsInOrder ∧
    ∃ front, t.upsertSelect (otherMerge ["id"]) = front ++ ("SELECT " ++ "\"id\"" ++ " FROM (" ++
      "SELECT \"id\" FROM \"web\".\"visits\" WHERE \"ds\" = '2020-01-01' AND \"country\" = 'nl'" ++
        ") AS d" ++ withoutCounterpart) := by
  have hbind : bind visitInstance .presto = .ok _ := rfl
  have ht := Reachable.bound visitInstance_declared hbind
  exact ⟨_, ht, rfl, merge_reloads_existing ht rfl, .inl rfl,
    ht.wellBound.coherent.upsertSelect_ends (by cbv) (by cbv) (by cbv)⟩

/-- Existing rows are read from the table without the suffix, and what has been transformed when it was
inserted is transformed once more. -/
theorem merge_alters_existing : ∃ t : Table, t.Reachable ∧
    ∃ front, t.upsertSelect (otherMerge ["id", "address"]) = front ++
      ("SELECT " ++ "\"id\", SHA1(\"address\") AS \"address\"" ++ " FROM (" ++
        ("SELECT \"id\", \"address\" FROM \"web\".\"visits\" " ++
          "WHERE \"ds\" = '2020-01-01' AND \"country\" = 'nl'") ++ ") AS d" ++ withoutCounterpart) := by
  have hbind : bind visitInstance .presto = .ok _ := rfl
  have ht := (Reachable.bound visitInstance_declared hbind).step (.addColumn address)
  exact ⟨_, ht, ht.wellBound.coherent.upsertSelect_ends (by cbv) (by cbv) (by cbv)⟩

end Table

end Warehouse
