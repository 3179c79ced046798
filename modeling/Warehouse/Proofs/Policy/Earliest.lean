import Warehouse.Policy.Resolution
import Warehouse.Proofs.Statement.Restriction

/-!
What a policy does to its table. The statement is written for a fresh table with the values of the
earliest partition, and compares the partitions that the policy names: each of them once, and nothing
else. A name that is no partition of the shape leaves no trace in the statement, so a policy that names
nothing but such names acts on the whole table.
-/

namespace Warehouse

open Outcome (bind_eq_ok)
open Template (BraceFree filledSlot isName slot)

/-! ### The table of the earliest partition -/

theorem Policy.earliest_ok {p : Policy} {e : Expiry} {values : Dict String}
    (h : p.earliest e = .ok values) : e.earliest = some values ∧ values.isEmpty = false := by
  rw [Policy.earliest] at h
  split at h
  · next values' hv =>
    split at h
    · cases h
    · next hne =>
      cases h
      exact ⟨hv, by simpa using hne⟩
  · cases h

namespace Table

/-- A fresh table is of the same shape, schema and dialect, and each of its columns has the value given
for it, or else the one of its declaration. -/
theorem withValues_ok {t old : Table} (ht : t.WellBound) {values : Dict String}
    (h : t.withValues values = .ok old) : old.dialect = t.dialect ∧ old.shape = t.shape ∧
      old.schema = t.schema ∧ ∃ p, t.shape.prototype = some p ∧
        old.columns.map (·.declared) =
          p.columns.map fun c => { c with value := (values.find? c.name).or c.value } := by
  obtain ⟨i, hi, hbind⟩ := bind_eq_ok.1 h
  obtain ⟨p, hp, hshape, hschema, hcolumns⟩ := Instance.create_ok hi
  obtain ⟨_, hdialect, rfl⟩ := bind_eq_ok_iff.1 hbind
  refine ⟨hdialect, hshape, hschema, p, hp, hcolumns.trans ?_⟩
  exact Instance.seeds_eq values.keys_nodup (ht.shape.wellNamed hp).distinct

/-- A value that is given for a column is the value of the column. -/
theorem withValues_value {t old : Table} (ht : t.WellBound) {values : Dict String}
    (h : t.withValues values = .ok old) {c : BoundColumn} (hc : c ∈ old.columns) {v : String}
    (hv : values.find? c.name = some v) : c.declared.value = some v := by
  obtain ⟨_, _, _, p, _, hcolumns⟩ := withValues_ok ht h
  have hmem : c.declared ∈ old.columns.map (·.declared) := List.mem_map_of_mem hc
  rw [hcolumns] at hmem
  obtain ⟨d, _, hd⟩ := List.mem_map.1 hmem
  have hname : d.name = c.name := by
    rw [BoundColumn.name, ← hd]
  rw [← hd, hname, hv]
  rfl

/-- A statement of a policy is the one that its kind has for the partition named, of the fresh table. -/
theorem resolve_eq_some {t : Table} {p : Policy} {sql : String} (h : t.resolve p = .ok (some sql)) :
    ∃ e values old, p.expiry? = some e ∧ e.earliest = some values ∧ values.isEmpty = false ∧
      t.withValues values = .ok old ∧
      (p.kind = .partitionRetention ∧ sql = old.deletePartition (old.scopeOf values) ∨
        p.kind = .partitionAnonymisation ∧
          old.anonymisePartition (old.scopeOf values) = some sql) := by
  cases p with
  | manual => cases h
  | retention e =>
    obtain ⟨values, hvalues, h⟩ := bind_eq_ok.1 h
    obtain ⟨old, hold, h⟩ := bind_eq_ok.1 h
    cases h
    obtain ⟨he, hne⟩ := Policy.earliest_ok hvalues
    exact ⟨e, values, old, rfl, he, hne, hold, Or.inl ⟨rfl, rfl⟩⟩
  | anonymisation e =>
    obtain ⟨values, hvalues, h⟩ := bind_eq_ok.1 h
    obtain ⟨old, hold, h⟩ := bind_eq_ok.1 h
    obtain ⟨he, hne⟩ := Policy.earliest_ok hvalues
    exact ⟨e, values, old, rfl, he, hne, hold, Or.inr ⟨rfl, Except.ok.inj h⟩⟩

/-! ### The partitions that a policy names -/

/-- A partition is compared when it is named. -/
theorem not_mem_ignored {t : Table} {values : Dict String} {p : BoundColumn} (hp : p ∈ t.partitions) :
    p.name ∉ (t.scopeOf values).ignored ↔ values.contains p.name = true := by
  have hname : p.name ∈ t.partitionNames := List.mem_map_of_mem hp
  simp [scopeOf, hname]

theorem comparisons_scopeOf (t : Table) (values : Dict String) :
    (t.comparisons (t.scopeOf values)).map Prod.fst = t.partitionNames.filter values.contains := by
  have hkept : ∀ p ∈ t.partitions,
      (!(t.scopeOf values).ignored.contains p.name) = values.contains p.name := by
    intro p hp
    rw [Bool.eq_iff_iff, Bool.not_eq_true', ← Bool.not_eq_true, List.contains_iff_mem]
    exact not_mem_ignored hp
  rw [comparisons, List.map_map, List.filter_congr hkept, partitionNames, List.filter_map]
  rfl

theorem furtherConditions_scopeOf (t : Table) (values : Dict String) :
    t.furtherConditions (t.scopeOf values) = [] :=
  rfl

theorem conditions_scopeOf (t : Table) (values : Dict String) :
    t.conditions (t.scopeOf values) = (t.comparisons (t.scopeOf values)).map Prod.snd := by
  rw [conditions, furtherConditions_scopeOf, List.append_nil]

theorem conditions_scopeOf_eq_nil (t : Table) (values : Dict String) :
    t.conditions (t.scopeOf values) = [] ↔ ∀ k ∈ values.keys, k ∉ t.partitionNames := by
  have hnames := t.comparisons_scopeOf values
  rw [conditions_scopeOf, List.map_eq_nil_iff, ← List.map_eq_nil_iff (f := Prod.fst), hnames,
    List.filter_eq_nil_iff]
  constructor
  · intro h k hk hname
    exact h k hname (Dict.contains_iff.2 hk)
  · intro h k hname hk
    exact h k (Dict.contains_iff.1 hk) hname

/-- The conditions of the named partitions equate a name with a value when the comparison of a partition
that is named comes out that way. -/
theorem equates_scopeOf_iff {t : Table} {values : Dict String} {name value : String} :
    t.Equates (t.scopeOf values) name value ↔
      ∃ q ∈ t.partitions, values.contains q.name = true ∧
        t.comparison Dict.empty q = t.vocabulary.quoteColumn name ++ " = " ++ value := by
  rw [equates_iff, furtherConditions_scopeOf, or_iff_left List.not_mem_nil]
  refine exists_congr fun q => and_congr_right fun hq => ?_
  rw [not_mem_ignored hq]
  rfl

/-- Without braces in the names, it is the slot of the partition of that name that has to be filled with
the value. -/
theorem WellBound.equates_scopeOf {t : Table} (ht : t.WellBound)
    (hnames : ∀ q ∈ t.partitions, BraceFree q.name) {values : Dict String} {name value : String} :
    t.Equates (t.scopeOf values) name value ↔
      ∃ q ∈ t.partitions, q.name = name ∧ values.contains q.name = true ∧
        filledSlot q.name q.declared.value = value := by
  rw [ht.equates_braceFree hnames, furtherConditions_scopeOf, or_iff_left List.not_mem_nil]
  refine exists_congr fun q => and_congr_right fun hq => ?_
  rw [not_mem_ignored hq]
  rfl

/-- A key of the policy is equated with its value when it is a partition whose slot can be filled: the
fresh table has the value. -/
theorem WellBound.equates_given {t old : Table} (ht : t.WellBound) {values : Dict String}
    (hold : t.withValues values = .ok old) (hnames : ∀ q ∈ old.partitions, BraceFree q.name)
    {k v : String} (hk : (k, v) ∈ values.entries) : old.Equates (old.scopeOf values) k v ↔
      k ∈ old.partitionNames ∧ (isName k.toList = true ∨ v = slot k) := by
  have hfound : values.find? k = some v := Dict.find?_eq_some.2 hk
  have hcontains : values.contains k = true := by rw [Dict.contains, hfound]; rfl
  have hvalue : ∀ q ∈ old.partitions, q.name = k → q.declared.value = some v := by
    rintro q hq rfl
    exact withValues_value ht hold (List.mem_of_mem_filter hq) hfound
  rw [(ht.withValues hold).equates_scopeOf hnames, ← Template.filledSlot_some]
  constructor
  · rintro ⟨q, hq, rfl, _, hslot⟩
    rw [hvalue q hq rfl] at hslot
    exact ⟨List.mem_map_of_mem hq, hslot⟩
  · rintro ⟨hname, hslot⟩
    obtain ⟨q, hq, rfl⟩ := List.mem_map.1 hname
    rw [← hvalue q hq rfl] at hslot
    exact ⟨q, hq, rfl, hcontains, hslot⟩

theorem conditions_scopeOf_ne_empty (t : Table) (values : Dict String) :
    ∀ c ∈ t.conditions (t.scopeOf values), c ≠ "" := by
  rw [conditions_scopeOf, comparisons, List.map_map]
  intro c hc
  obtain ⟨q, _, rfl⟩ := List.mem_map.1 hc
  exact t.comparison_ne_empty _ q

/-- A statement of a policy is restricted by the comparisons of the partitions that the policy names, each
once, and by nothing else. The equality of a key and its value is among these exactly when a comparison
comes out that way: if no name of a partition holds a brace, when the key is a partition and can be the
name of a slot. So the statement is about the whole table exactly when no key is a partition. -/
theorem resolve_restricted {t : Table} (ht : t.Reachable) {p : Policy} {sql : String}
    (h : t.resolve p = .ok (some sql)) :
    ∃ e values old, p.expiry? = some e ∧ e.earliest = some values ∧ values.isEmpty = false ∧
      t.withValues values = .ok old ∧ old.dialect = t.dialect ∧ old.reference "" = t.reference "" ∧
      Restricted old "" (old.conditions (old.scopeOf values)) p.kind sql ∧
      old.conditions (old.scopeOf values) = (old.comparisons (old.scopeOf values)).map Prod.snd ∧
      (old.comparisons (old.scopeOf values)).map Prod.fst =
        old.partitionNames.filter values.contains ∧
      (∀ k v, (k, v) ∈ values.entries → (old.Equates (old.scopeOf values) k v ↔
        ∃ q ∈ old.partitions, values.contains q.name = true ∧
          old.comparison Dict.empty q = old.vocabulary.quoteColumn k ++ " = " ++ v)) ∧
      ((∀ q ∈ old.partitions, BraceFree q.name) → ∀ k v, (k, v) ∈ values.entries →
        (old.Equates (old.scopeOf values) k v ↔
          k ∈ old.partitionNames ∧ (isName k.toList = true ∨ v = slot k))) ∧
      (old.conditions (old.scopeOf values) = [] ↔ ∀ k ∈ values.keys, k ∉ old.partitionNames) := by
  obtain ⟨e, values, old, he, hvalues, hne, hold, hsql⟩ := resolve_eq_some h
  obtain ⟨hdialect, hshape, hschema, _⟩ := withValues_ok ht.wellBound hold
  refine ⟨e, values, old, he, hvalues, hne, hold, hdialect, ?_, ?_, old.conditions_scopeOf values,
    old.comparisons_scopeOf values, fun k v _ => equates_scopeOf_iff,
    fun hnames k v hk => ht.wellBound.equates_given hold hnames hk,
    old.conditions_scopeOf_eq_nil values⟩
  · simp only [reference, fullName, qualify, vocabulary, prefixedName, tableName, hdialect, hshape,
      hschema]
  · rcases hsql with ⟨hkind, rfl⟩ | ⟨hkind, hsql⟩
    · rw [hkind]
      exact old.deletePartition_restricted (old.scopeOf values)
    · rw [hkind]
      exact anonymisePartition_restricted (old.conditions_scopeOf_ne_empty values) hsql

/-- An expiry whose earliest partition has these values. -/
def visitExpiry (entries : List (String × String)) : Expiry where
  daysAgo := 30
  earliest := some (Dict.ofList entries)

theorem visits_resolve_restricted : ∃ t old : Table, t.Reachable ∧
    t.resolve (.retention (visitExpiry [("ds", "'2020-01-01'")])) =
      .ok (some "DELETE FROM \"web\".\"visits\" WHERE \"ds\" = '2020-01-01'") ∧
    Restricted old "" (old.conditions (old.scopeOf (Dict.ofList [("ds", "'2020-01-01'")])))
      .partitionRetention "DELETE FROM \"web\".\"visits\" WHERE \"ds\" = '2020-01-01'" ∧
    old.Equates (old.scopeOf (Dict.ofList [("ds", "'2020-01-01'")])) "ds" "'2020-01-01'" := by
  obtain ⟨t, old, ht, hsql, hold, hnames, hds⟩ : ∃ t old : Table, t.Reachable ∧
      t.resolve (.retention (visitExpiry [("ds", "'2020-01-01'")])) =
        .ok (some "DELETE FROM \"web\".\"visits\" WHERE \"ds\" = '2020-01-01'") ∧
      t.withValues (Dict.ofList [("ds", "'2020-01-01'")]) = .ok old ∧
      (∀ q ∈ old.partitions, BraceFree q.name) ∧ "ds" ∈ old.partitionNames := by
    have hbind : bind visitInstance .presto = .ok _ := rfl
    exact ⟨_, _, .bound visitInstance_declared hbind, by cbv, rfl, by decide, by decide⟩
  obtain ⟨e, values, old', he, hvalues, _, hold', _, _, hrestricted, _, _, _, hequates, _⟩ :=
    resolve_restricted ht hsql
  cases he
  cases hvalues
  cases hold.symm.trans hold'
  refine ⟨t, old, ht, hsql, hrestricted, ?_⟩
  exact (hequates hnames "ds" "'2020-01-01'" (by decide)).2 ⟨hds, Or.inl (by decide)⟩

/-- A name that is no partition, be it misspelt or that of another column, leaves the statement about the
whole table. -/
theorem resolve_whole_table : ∃ t hive : Table, t.Reachable ∧ hive.Reachable ∧
    t.resolve (.retention (visitExpiry [("dss", "'2020-01-01'")])) =
      .ok (some "DELETE FROM \"web\".\"visits\"") ∧
    t.resolve (.anonymisation (visitExpiry [("id", "1")])) =
      .ok (some "UPDATE \"web\".\"visits\" SET \"email\" = NULL") ∧
    hive.resolve (.retention (visitExpiry [("dss", "'2020-01-01'")])) =
      .ok (some "ALTER TABLE \x60web\x60.\x60visits\x60 DROP IF EXISTS PARTITION () PURGE") := by
  have hpresto : bind visitInstance .presto = .ok _ := rfl
  have hhive : bind visitInstance .hive = .ok _ := rfl
  exact ⟨_, _, .bound visitInstance_declared hpresto, .bound visitInstance_declared hhive, by cbv,
    by cbv, by cbv⟩

end Table

end Warehouse
