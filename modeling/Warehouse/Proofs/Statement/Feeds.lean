import Warehouse.Proofs.Statement.Loading
import Warehouse.Proofs.Table.Comparisons

/-!
What an insertion feeds. It walks over the columns of the table twice, once for the names that it lists and
once for the items of its select, and the two lists match position by position because both walks let the
same columns through. Hive walks a third time, for the entries of its `PARTITION` clause; a column is listed
there with a value exactly when it is not listed among the names.
-/

namespace Warehouse

namespace Column

/-- Whether the column is a partition that has this value, and the value is not empty. -/
def FixedTo (c : Column) (value : String) : Prop :=
  c.isPartition = true ∧ c.value = some value ∧ value ≠ ""

theorem fixedTo_iff {c : Column} {value : String} :
    c.FixedTo value ↔ c.isPartition = true ∧ c.currentValue? = some value := by
  rw [FixedTo, currentValue?_eq_some_iff]

/-- Rows feed all columns but the partitions that have a value. -/
theorem isFedByRows_iff {c : Column} :
    Table.isFedByRows c = true ↔ ∀ value, ¬ c.FixedTo value := by
  rw [Table.isFedByRows]
  cases hp : c.isPartition with
  | false => simp [FixedTo, hp]
  | true => simp [FixedTo, hp, currentValue?_eq_none_iff]

end Column

/-- A quoted name alone is no equality. -/
theorem QuoteStyle.quote_ne_equality (q : QuoteStyle) (a b x : String) :
    q.quote a ≠ q.quote b ++ " = " ++ x := by
  intro h
  have hequality : q.quote a ++ " = " ++ "" = q.quote b ++ " = " ++ (x ++ " = ") := by
    rw [h, String.append_empty, String.append_assoc]
  have hlength := congrArg String.length (q.equality_inj hequality).2
  rw [String.length_append, show " = ".length = 3 from rfl, show "".length = 0 from rfl] at hlength
  omega

namespace Table

/-- Whether names and items match: no name is there twice, each is that of a column, and the item of a column
stands where its name does. -/
structure Feeds (t : Table) (names items : List String) : Prop where
  length : names.length = items.length
  once : names.Nodup
  named : ∀ n ∈ names, ∃ b ∈ t.columns, b.quotedName = n
  matching : ∀ k : Nat, ∀ b ∈ t.columns, names[k]? = some b.quotedName → items[k]? = some b.loadValue

/-- The insertion into the columns that a filter lets through, with the names that it lists and the items of
its select. -/
structure InsertsEach (t : Table) (source : Source) (filter : Filter) (suffix : String)
    (names items : List String) : Prop where
  feeds : t.Feeds names items
  standard : t.dialect ≠ .hive →
    names = (t.chosen filter).map (fun c => t.vocabulary.quoteColumn c.name) ∧
    t.insertInto source filter suffix = "INSERT INTO " ++ t.reference suffix ++ " (" ++
      String.intercalate ", " names ++ ") SELECT " ++ String.intercalate ", " items ++ " FROM " ++
      source.text " AS vw" ++ t.dialect.terminator
  hive : t.dialect = .hive →
    names = (t.chosenRows filter).map (fun c => t.vocabulary.quoteColumn c.name) ∧
    t.insertInto source filter suffix = "INSERT INTO " ++ t.reference suffix ++
      partitionClause t.partitionEntries ++ " (" ++ String.intercalate ", " names ++ ") SELECT " ++
      String.intercalate ", " items ++ " FROM " ++ source.text " vw"
  /-- In Hive a column is listed, or else the `PARTITION` clause gives it its value. -/
  parted : t.dialect = .hive → ∀ c ∈ t.chosen filter,
    (t.vocabulary.quoteColumn c.name ∈ names ↔ ∀ value, ¬ c.FixedTo value) ∧
    ∀ value, t.vocabulary.quoteColumn c.name ++ " = " ++ value ∈ t.partitionEntries.map (·.text) ↔
      c.FixedTo value

section WellBound

variable {t : Table} (ht : t.WellBound)
include ht

theorem WellBound.quotedNames_nodup : (t.columns.map (·.quotedName)).Nodup := by
  have hquoted : t.columns.map (·.quotedName) =
      (t.columns.map (·.name)).map t.vocabulary.quoteColumn := by
    rw [List.map_map]
    exact List.map_congr_left fun b hb => ht.quotedName hb
  rw [hquoted]
  exact ht.names_nodup.map fun _ _ => t.vocabulary.columnQuote.quote_inj

/-- The names and the load items of the columns that a filter lets through match. -/
theorem WellBound.feeds (filter : Filter) :
    t.Feeds ((t.select true filter).map (·.quotedName)) (t.loadValues true filter) := by
  constructor
  case length => rw [loadValues, List.length_map, List.length_map]
  case once => exact ht.quotedNames_nodup.sublist (List.filter_sublist.map _)
  case named =>
    intro n hn
    obtain ⟨b, hb, hname⟩ := List.mem_map.1 hn
    exact ⟨b, List.mem_of_mem_filter hb, hname⟩
  case matching =>
    intro k b hb hk
    rw [List.getElem?_map, Option.map_eq_some_iff] at hk
    obtain ⟨e, he, hname⟩ := hk
    have hselected : e ∈ t.columns := List.mem_of_mem_filter (List.mem_of_getElem? he)
    obtain rfl := List.inj_on_of_nodup_map ht.quotedNames_nodup hselected hb hname
    rw [loadValues, List.getElem?_map, he, Option.map_some]

/-- Among declarations the quoted name tells the column. -/
theorem WellBound.declared_ext {c e : Column} (hc : c ∈ t.toInstance.columns)
    (he : e ∈ t.toInstance.columns)
    (h : t.vocabulary.quoteColumn c.name = t.vocabulary.quoteColumn e.name) : c = e :=
  List.inj_on_of_nodup_map ht.named.distinct hc he (t.vocabulary.columnQuote.quote_inj h)

theorem WellBound.mem_rowNames {filter : Filter} {c : Column} (hc : c ∈ t.chosen filter) :
    t.vocabulary.quoteColumn c.name ∈
        (t.chosenRows filter).map (fun c => t.vocabulary.quoteColumn c.name) ↔
      ∀ value, ¬ c.FixedTo value := by
  rw [← Column.isFedByRows_iff, List.mem_map]
  constructor
  · rintro ⟨e, he, hname⟩
    obtain ⟨hchosen, hrows⟩ := List.mem_filter.1 he
    obtain rfl := ht.declared_ext (List.mem_of_mem_filter hchosen) (List.mem_of_mem_filter hc) hname
    exact hrows
  · exact fun hrows => ⟨c, List.mem_filter.2 ⟨hc, hrows⟩, rfl⟩

/-- The `PARTITION` clause gives a column the value that it has as a partition, and no other. -/
theorem WellBound.mem_partitionTexts {c : Column} (hc : c ∈ t.toInstance.columns) {value : String} :
    t.vocabulary.quoteColumn c.name ++ " = " ++ value ∈ t.partitionEntries.map (·.text) ↔
      c.FixedTo value := by
  rw [Column.fixedTo_iff, partitionEntries, List.map_map, List.mem_map]
  constructor
  · rintro ⟨p, hp, htext⟩
    obtain ⟨hcolumn, hpartition⟩ := List.mem_filter.1 hp
    rw [Function.comp_apply, PartitionEntry.text, ht.quotedName hcolumn] at htext
    cases hvalue : p.declared.currentValue? with
    | none =>
      rw [hvalue] at htext
      exact absurd htext (t.vocabulary.columnQuote.quote_ne_equality _ _ _)
    | some given =>
      rw [hvalue] at htext
      obtain ⟨hname, rfl⟩ := t.vocabulary.columnQuote.equality_inj htext
      have hdeclared : p.declared ∈ t.toInstance.columns := List.mem_map_of_mem hcolumn
      obtain rfl := List.inj_on_of_nodup_map ht.named.distinct hdeclared hc hname
      exact ⟨hpartition, hvalue⟩
  · rintro ⟨hpartition, hvalue⟩
    obtain ⟨b, hb, rfl⟩ := List.mem_map.1 hc
    refine ⟨b, List.mem_filter.2 ⟨hb, hpartition⟩, ?_⟩
    rw [Function.comp_apply, PartitionEntry.text, ht.quotedName hb, hvalue]
    rfl

end WellBound

/-- An insertion into a table that can come about feeds each of its columns that the filter lets through once,
with the item of that column in the position of its name. Only Hive leaves columns out of the list, those to
which its `PARTITION` clause gives their value. -/
theorem insertion_feeds {t : Table} (ht : t.Reachable) (source : Source) (filter : Filter)
    (suffix : String) : ∃ names items, t.InsertsEach source filter suffix names items := by
  have hbound := ht.wellBound
  by_cases hd : t.dialect = .hive
  · refine ⟨_, _, hbound.feeds (filter.and (.custom isFedByRows)), fun h => absurd hd h, fun _ => ?_,
      fun _ c hc => ?_⟩
    · refine ⟨by rw [hbound.coherent.quotedNames, select_fed], ?_⟩
      rw [hbound.coherent.quotedNames, select_fed]
      exact hbound.coherent.hiveInsertInto_text hd source filter suffix
    · rw [hbound.coherent.quotedNames, select_fed]
      exact ⟨hbound.mem_rowNames hc, fun value => hbound.mem_partitionTexts (List.mem_of_mem_filter hc)⟩
  · refine ⟨_, _, hbound.feeds filter, fun _ => ?_, fun h => absurd h hd, fun h => absurd h hd⟩
    refine ⟨by rw [hbound.coherent.quotedNames, select_declared], ?_⟩
    rw [hbound.coherent.quotedNames, select_declared]
    exact insertInto_text hd source filter suffix

/-- Of the columns of visits but one, the country is given in the `PARTITION` clause and not listed. -/
theorem visits_insertion_feeds : ∃ t : Table, t.Reachable ∧ t.dialect = .hive ∧
    (∃ names items, t.InsertsEach (.table "web.events") (.except ["email"]) "" names items) ∧
    t.insertInto (.table "web.events") (.except ["email"]) "" =
      "INSERT INTO \x60web\x60.\x60visits\x60 PARTITION (\x60ds\x60, \x60country\x60 = 'nl') " ++
        "(\x60id\x60, \x60ds\x60) SELECT \x60id\x60, \x60ds\x60 FROM web.events" := by
  have hbind : bind visitInstance .hive = .ok _ := rfl
  have hreachable := Reachable.bound visitInstance_declared hbind
  have htext := hreachable.wellBound.coherent.hiveInsertInto_text rfl (.table "web.events")
    (.except ["email"]) ""
  exact ⟨_, hreachable, rfl, insertion_feeds hreachable _ _ _, htext.trans (by cbv)⟩

end Table

end Warehouse
