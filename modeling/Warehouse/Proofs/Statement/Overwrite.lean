import Warehouse.Proofs.Column.LoadItem
import Warehouse.Proofs.Policy.Earliest
import Warehouse.Proofs.Statement.Bare

/-!
The statement by which Hive removes personal data: a select of the partition in scope overwrites the
partition that the table's values name. What is overwritten comes from the values of the columns, what is
read from the scope, so the two are the same partition only where these agree. Main statement: which
entries of the clause the condition of the select repeats.
-/

namespace Warehouse

open Template (BraceFree filledSlot isName slot)

namespace Table

/-- The statement overwrites the partition that the table's values name with rows that a select takes from
the table: those with all conditions of the scope, and all rows if there are none. The select may have
lost blanks and semicolons at its end. -/
def Overwrites (t : Table) (scope : Scope) (sql : String) : Prop :=
  ∃ items select tail, sql = "INSERT OVERWRITE TABLE " ++ t.reference scope.suffix ++
      partitionClause t.partitionEntries ++ " " ++ select ∧
    select ++ tail = "SELECT " ++ items ++ " FROM " ++ t.reference scope.suffix ++
      whereClause (String.intercalate " AND " (t.conditions scope)) ∧
    ∀ c ∈ tail.toList, c = ';' ∨ Text.isBlank c = true

theorem anonymisePartition_overwrites {t : Table} (hd : t.dialect = .hive) {scope : Scope}
    {sql : String} (h : t.anonymisePartition scope = some sql) : t.Overwrites scope sql := by
  rw [anonymisePartition, hd] at h
  split at h
  · cases h
  · cases h
    have hstart : ∀ c ∈ (t.anonymousQuery scope).text.toList.head?, Text.isBlank c = false := by
      intro c hc
      rw [anonymousQuery_text] at hc
      have hc' : 'S' = c := by simpa [String.toList_append] using hc
      rw [← hc']
      decide
    obtain ⟨tail, htail, hends⟩ := Statement.bare_append hstart
    refine ⟨String.intercalate ", " (t.anonymousQuery scope).items, _, tail, rfl, ?_, hends⟩
    rw [← htail, anonymousQuery_text]

/-! ### What is overwritten and what is read -/

/-- The entry of the `PARTITION` clause for a partition with this value. -/
def staticEntry (p : BoundColumn) (value : String) : PartitionEntry := ⟨p.quotedName, some value⟩

/-- Whether the condition that the select reads by repeats the entry of a partition with this value. -/
def Repeats (t : Table) (scope : Scope) (p : BoundColumn) (value : String) : Prop :=
  (staticEntry p value).text ∈ t.conditions scope

theorem staticEntry_mem {t : Table} {p : BoundColumn} (hp : p ∈ t.partitions) {v : String}
    (hv : p.declared.currentValue? = some v) : staticEntry p v ∈ t.partitionEntries := by
  refine List.mem_map.2 ⟨p, hp, ?_⟩
  rw [hv, staticEntry]

section WellBound

variable {t : Table} (ht : t.WellBound)
include ht

theorem WellBound.repeats_iff_equates {p : BoundColumn} (hp : p ∈ t.partitions) {scope : Scope}
    {v : String} : t.Repeats scope p v ↔ t.Equates scope p.name v := by
  rw [Repeats, Equates, staticEntry, PartitionEntry.text, ht.quotedName (List.mem_of_mem_filter hp)]

/-- Without braces in the names, the entry is repeated when the scope compares the partition and gives it
no other value, or asks for the equality itself. -/
theorem WellBound.repeats_braceFree (hnames : ∀ q ∈ t.partitions, BraceFree q.name)
    {p : BoundColumn} (hp : p ∈ t.partitions) {v : String} (hv : p.declared.currentValue? = some v)
    (scope : Scope) : t.Repeats scope p v ↔
      p.name ∉ scope.ignored ∧ filledSlot p.name ((scope.params.find? p.name).or (some v)) = v ∨
        (staticEntry p v).text ∈ t.furtherConditions scope := by
  have hvalue := (Column.currentValue?_eq_some_iff.1 hv).1
  rw [ht.repeats_iff_equates hp, ht.equates_braceFree hnames, staticEntry, PartitionEntry.text,
    ht.quotedName (List.mem_of_mem_filter hp)]
  refine or_congr_left ?_
  constructor
  · rintro ⟨q, hq, hname, hkept, hslot⟩
    obtain rfl := ht.partition_ext hq hp hname
    rw [hvalue] at hslot
    exact ⟨hkept, hslot⟩
  · rintro ⟨hkept, hslot⟩
    rw [← hvalue] at hslot
    exact ⟨p, hp, rfl, hkept, hslot⟩

end WellBound

/-- In Hive, a statement that removes personal data overwrites the partition of the table's values with
rows read by the conditions of the scope, and this theorem tells which entries of the one the other
repeats. Called with a scope, an entry is repeated unless the scope ignores the partition, gives it
another value, or cannot fill its slot; called for a policy, unless the policy does not name the
partition or cannot fill its slot, whichever way the partition came by its value. -/
theorem overwrite_repeats_iff {t : Table} (ht : t.Reachable) (hd : t.dialect = .hive) :
    (∀ scope sql, t.anonymisePartition scope = some sql → t.Overwrites scope sql ∧
      ∀ p ∈ t.partitions, ∀ v, p.declared.currentValue? = some v →
        staticEntry p v ∈ t.partitionEntries ∧
        (t.Repeats scope p v ↔
          (∃ q ∈ t.partitions, q.name ∉ scope.ignored ∧
            t.comparison scope.params q = (staticEntry p v).text) ∨
          (staticEntry p v).text ∈ t.furtherConditions scope) ∧
        ((∀ q ∈ t.partitions, BraceFree q.name) → (t.Repeats scope p v ↔
          p.name ∉ scope.ignored ∧
            filledSlot p.name ((scope.params.find? p.name).or (some v)) = v ∨
          (staticEntry p v).text ∈ t.furtherConditions scope))) ∧
    ∀ e sql, t.resolve (.anonymisation e) = .ok (some sql) → ∃ values old,
      e.earliest = some values ∧ t.withValues values = .ok old ∧
      old.Overwrites (old.scopeOf values) sql ∧
      ∀ p ∈ old.partitions, ∀ v, p.declared.currentValue? = some v →
        staticEntry p v ∈ old.partitionEntries ∧
        (old.Repeats (old.scopeOf values) p v ↔
          ∃ q ∈ old.partitions, values.contains q.name = true ∧
            old.comparison Dict.empty q = (staticEntry p v).text) ∧
        ((∀ q ∈ old.partitions, BraceFree q.name) → (old.Repeats (old.scopeOf values) p v ↔
          values.contains p.name = true ∧ (isName p.name.toList = true ∨ v = slot p.name))) := by
  constructor
  · intro scope sql h
    refine ⟨anonymisePartition_overwrites hd h, fun p hp v hv => ⟨staticEntry_mem hp hv, ?_, ?_⟩⟩
    · rw [ht.wellBound.repeats_iff_equates hp, equates_iff, staticEntry, PartitionEntry.text,
        ht.wellBound.quotedName (List.mem_of_mem_filter hp)]
    · intro hnames
      exact ht.wellBound.repeats_braceFree hnames hp hv scope
  · intro e sql h
    obtain ⟨e', values, old, he, hvalues, _, hold, hsql⟩ := resolve_eq_some h
    cases he
    have hbound : old.WellBound := ht.wellBound.withValues hold
    have hhive : old.dialect = .hive := (withValues_ok ht.wellBound hold).1.trans hd
    have hstatement : old.anonymisePartition (old.scopeOf values) = some sql := by
      rcases hsql with ⟨hkind, _⟩ | ⟨_, hsql⟩
      · cases hkind
      · exact hsql
    refine ⟨values, old, hvalues, hold, anonymisePartition_overwrites hhive hstatement,
      fun p hp v hv => ⟨staticEntry_mem hp hv, ?_, ?_⟩⟩
    · rw [hbound.repeats_iff_equates hp, equates_scopeOf_iff, staticEntry, PartitionEntry.text,
        hbound.quotedName (List.mem_of_mem_filter hp)]
    · intro hnames
      rw [hbound.repeats_braceFree hnames hp hv, furtherConditions_scopeOf,
        or_iff_left List.not_mem_nil, not_mem_ignored hp, ← Template.filledSlot_some]
      rfl

theorem visits_overwrite_repeats : ∃ t : Table, t.Reachable ∧ t.dialect = .hive ∧
    ∃ sql, t.anonymisePartition {} = some sql ∧ t.Overwrites {} sql ∧
      ∀ p ∈ t.partitions, ∀ v, p.declared.currentValue? = some v → t.Repeats {} p v := by
  obtain ⟨t, ht, hd, hsql, hnames, hslots⟩ : ∃ t : Table, t.Reachable ∧ t.dialect = .hive ∧
      (∃ sql, t.anonymisePartition {} = some sql) ∧ (∀ q ∈ t.partitions, BraceFree q.name) ∧
      ∀ q ∈ t.partitions, isName q.name.toList = true := by
    have hbind : bind visitInstance .hive = .ok _ := rfl
    have hbound := Reachable.bound visitInstance_declared hbind
    exact ⟨_, hbound.step (.setValue "ds" "'2020-01-01'"), rfl, ⟨_, rfl⟩, by decide, by decide⟩
  obtain ⟨sql, hsql⟩ := hsql
  obtain ⟨hoverwrites, hentries⟩ := (overwrite_repeats_iff ht hd).1 {} sql hsql
  refine ⟨t, ht, hd, sql, hsql, hoverwrites, ?_⟩
  intro p hp v hv
  refine ((hentries p hp v hv).2.2 hnames).2 (Or.inl ⟨List.not_mem_nil, ?_⟩)
  exact Template.filledSlot_some.2 (Or.inl (hslots p hp))

/-- A partition that has a value of its own is overwritten although a policy does not name it, and read
from another one where the scope gives it another value. -/
theorem overwrite_other_partition : ∃ t old : Table, ∃ sql sql', t.Reachable ∧ t.dialect = .hive ∧
    t.resolve (.anonymisation (visitExpiry [("ds", "'2020-01-01'")])) = .ok (some sql) ∧
    t.withValues (Dict.ofList [("ds", "'2020-01-01'")]) = .ok old ∧
    old.partitionEntries.map (·.text) =
      ["\x60ds\x60 = '2020-01-01'", "\x60country\x60 = 'nl'"] ∧
    old.conditions (old.scopeOf (Dict.ofList [("ds", "'2020-01-01'")])) =
      ["\x60ds\x60 = '2020-01-01'"] ∧
    t.anonymisePartition { params := Dict.ofList [("ds", "'2020-01-01'"), ("country", "'be'")] } =
      some sql' ∧
    t.partitionEntries.map (·.text) = ["\x60ds\x60", "\x60country\x60 = 'nl'"] ∧
    t.conditions { params := Dict.ofList [("ds", "'2020-01-01'"), ("country", "'be'")] } =
      ["\x60ds\x60 = '2020-01-01'", "\x60country\x60 = 'be'"] := by
  have hbind : bind visitInstance .hive = .ok _ := rfl
  exact ⟨_, _, _, _, .bound visitInstance_declared hbind, rfl, rfl, rfl, by cbv, by cbv, rfl, by cbv,
    by cbv⟩

end Table

end Warehouse
