import Mathlib
import Warehouse.Proofs.Instance.Values
import Warehouse.Proofs.Table.Coherence

/-!
The tables that can come about: bound from an instance of a declared shape, then changed by operations
in any order, of which each may fail. For each operation there is a lemma on what it changes and one that
it changes nothing where it fails. So all of these tables stay coherent with their declarations and well
named, binding one again to its own dialect changes nothing, and a visit to another dialect can be undone.
-/

namespace Warehouse

open Outcome (bind_eq_ok)

/-- The instances that can come about: made from a declared shape, with values set by hand as far as there
are columns for them. -/
inductive Instance.Declared : Instance → Prop
  | created {shape : Shape} {schema : String} {values : List (String × String)} {i : Instance}
      (hs : shape.Declared) (h : Instance.create shape schema values = .ok i) : Declared i
  | valueSet {i : Instance} (hi : Declared i) (column value : String) :
      Declared (i.setValue column value).left

namespace Table

/-- What can be done to a bound table. -/
inductive Operation where
  | setValue (column value : String)
  | addColumn (c : Column)
  | rebind (d : Dialect)
  | withValues (values : Dict String)

/-- What an operation gives. A table that is made from another one takes its place. -/
def perform (t : Table) : Operation → Change Table
  | .setValue column value => t.setValue column value
  | .addColumn c => t.addColumn c
  | .rebind d => .replace t (t.rebind d)
  | .withValues values => .replace t (t.withValues values)

/-- The table that an operation leaves, be it that it succeeds or fails. -/
def after (t : Table) (o : Operation) : Table := (t.perform o).left

/-- The tables that can come about. -/
inductive Reachable : Table → Prop
  | bound {i : Instance} {d : Dialect} {t : Table} (hi : i.Declared) (h : bind i d = .ok t) :
      Reachable t
  | step {t : Table} (h : Reachable t) (o : Operation) : Reachable (t.after o)

/-- What holds of every table that can come about. -/
structure WellBound (t : Table) : Prop where
  shape : t.shape.Declared
  named : WellNamed t.toInstance.columns
  coherent : t.Coherent

end Table

/-! ### Instances -/

namespace Instance

/-- Setting a value changes the first column of the name and nothing else; where there is no such column, it
changes nothing. -/
theorem left_setValue (i : Instance) (column value : String) :
    ∃ columns, (i.setValue column value).left = { i with columns } ∧ (columns = i.columns ∨
      updateFirst? (·.name == column) (·.setValue value) i.columns = some columns) := by
  rw [setValue]
  split
  · next columns hc => exact ⟨columns, rfl, .inr hc⟩
  · exact ⟨i.columns, rfl, .inl rfl⟩

theorem Declared.shape_declared {i : Instance} (h : i.Declared) : i.shape.Declared := by
  induction h with
  | created hs h =>
    obtain ⟨p, _, hshape, _⟩ := create_ok h
    rw [hshape]
    exact hs
  | valueSet _ column value ih =>
    obtain ⟨columns, hleft, _⟩ := left_setValue _ column value
    rw [hleft]
    exact ih

theorem Declared.wellNamed {i : Instance} (h : i.Declared) : WellNamed i.columns := by
  induction h with
  | created hs h =>
    obtain ⟨p, hp, _, _, hcolumns⟩ := create_ok h
    rw [hcolumns]
    exact (hs.wellNamed hp).of_names (seeds_names _ _)
  | valueSet _ column value ih =>
    obtain ⟨columns, hleft, rfl | hc⟩ := left_setValue _ column value <;> rw [hleft]
    · exact ih
    · exact ih.of_names (updateFirst?_map hc (·.name) fun _ => rfl)

end Instance

/-! ### Each operation keeps a table well bound -/

namespace Table

theorem toInstance_names (t : Table) :
    t.toInstance.columns.map (·.name) = t.columns.map (·.name) :=
  List.map_map

theorem WellBound.names_nodup {t : Table} (ht : t.WellBound) : (t.columns.map (·.name)).Nodup :=
  t.toInstance_names ▸ ht.named.distinct

theorem WellBound.of_bind {i : Instance} {d : Dialect} {t : Table} (hs : i.shape.Declared)
    (hn : WellNamed i.columns) (h : bind i d = .ok t) : t.WellBound := by
  obtain ⟨hcoherent, rfl, rfl⟩ := bind_eq_ok_iff.1 h
  exact ⟨hs, hn, hcoherent⟩

/-- Setting a value changes the declaration of the first column of the name and nothing else. -/
theorem setValue_ok {t t' : Table} {column value : String} (h : t.setValue column value = .ok () t') :
    ∃ columns, updateFirst? (·.name == column)
        (fun c => { c with declared := c.declared.setValue value }) t.columns = some columns ∧
      t' = { t with columns } := by
  rw [Table.setValue] at h
  split at h
  · next columns hc =>
    cases h
    exact ⟨columns, hc, rfl⟩
  · cases h

/-- Where there is no such column, the table stays as it is. -/
theorem setValue_error {t left : Table} {column value : String} {p : Problem}
    (h : t.setValue column value = .error p left) : left = t := by
  rw [Table.setValue] at h
  split at h
  · cases h
  · cases h
    rfl

/-- A column is added behind the others; it has a name of its own and binds. -/
theorem addColumn_ok {t t' : Table} {c : Column} (h : t.addColumn c = .ok () t') :
    c.name ≠ "" ∧ (∀ e ∈ t.columns, e.name ≠ c.name) ∧
      ∃ b, Binding.column (target t.dialect) none c = .ok b ∧
        t' = { t with columns := t.columns ++ [b] } := by
  rw [Table.addColumn] at h
  split at h
  · cases h
  · next hname =>
    split at h
    · cases h
    · next hnew =>
      split at h
      · next b hb =>
        cases h
        exact ⟨hname, by simpa [column?] using hnew, b, hb, rfl⟩
      · cases h

/-- A column that is nameless, not new or does not bind is not added. -/
theorem addColumn_error {t left : Table} {c : Column} {p : Problem} (h : t.addColumn c = .error p left) :
    left = t := by
  rw [Table.addColumn] at h
  split at h
  · cases h
    rfl
  · split at h
    · cases h
      rfl
    · split at h <;> cases h
      rfl

/-- An operation that fails leaves the table as it was. -/
theorem perform_error {t left : Table} {o : Operation} {p : Problem} (h : t.perform o = .error p left) :
    left = t := by
  cases o with
  | setValue column value => exact setValue_error h
  | addColumn c => exact addColumn_error h
  | rebind d => exact (Change.replace_eq_error.1 h).2
  | withValues values => exact (Change.replace_eq_error.1 h).2

theorem after_ok {t t' : Table} {o : Operation} (h : t.perform o = .ok () t') : t.after o = t' := by
  rw [after, h, Change.left]

theorem after_error {t left : Table} {o : Operation} {p : Problem} (h : t.perform o = .error p left) :
    t.after o = t := by
  rw [after, h, Change.left, perform_error h]

theorem WellBound.setValue {t t' : Table} {column value : String} (ht : t.WellBound)
    (h : t.setValue column value = .ok () t') : t'.WellBound := by
  obtain ⟨columns, hc, rfl⟩ := setValue_ok h
  refine ⟨ht.shape, ht.named.of_names ?_, ?_, ht.coherent.properties⟩
  · rw [toInstance_names, toInstance_names]
    exact updateFirst?_map hc (·.name) fun _ => rfl
  · exact updateFirst?_forall hc (fun b _ hb => hb.setValue value) ht.coherent.columns

theorem WellBound.addColumn {t t' : Table} {c : Column} (ht : t.WellBound)
    (h : t.addColumn c = .ok () t') : t'.WellBound := by
  obtain ⟨hname, hfresh, b, hb, rfl⟩ := addColumn_ok h
  have hdecl := Binding.declared_of_column hb
  refine ⟨ht.shape, ?_, ?_, ht.coherent.properties⟩
  · rw [toInstance, List.map_append, List.map_singleton, hdecl]
    refine ht.named.concat hname fun e he => ?_
    obtain ⟨e', he', rfl⟩ := List.mem_map.1 he
    exact hfresh e' he'
  · intro e he
    rcases List.mem_append.1 he with he | he
    · exact ht.coherent.columns e he
    · rw [List.mem_singleton.1 he, Binding.ColumnCoherent, hdecl]
      exact hb

theorem WellBound.rebind {t t' : Table} {d : Dialect} (ht : t.WellBound)
    (h : t.rebind d = .ok t') : t'.WellBound :=
  .of_bind ht.shape ht.named h

theorem WellBound.withValues {t t' : Table} {values : Dict String} (ht : t.WellBound)
    (h : t.withValues values = .ok t') : t'.WellBound := by
  obtain ⟨i, hi, h⟩ := bind_eq_ok.1 h
  have hdeclared : i.Declared := .created ht.shape hi
  exact .of_bind hdeclared.shape_declared hdeclared.wellNamed h

theorem WellBound.after {t : Table} (ht : t.WellBound) (o : Operation) : (t.after o).WellBound := by
  cases h : t.perform o with
  | ok _ t' =>
    rw [after_ok h]
    cases o with
    | setValue column value => exact ht.setValue h
    | addColumn c => exact ht.addColumn h
    | rebind d => exact ht.rebind (Change.replace_eq_ok.1 h)
    | withValues values => exact ht.withValues (Change.replace_eq_ok.1 h)
  | error p left =>
    rw [after_error h]
    exact ht

theorem Reachable.wellBound {t : Table} (h : t.Reachable) : t.WellBound := by
  induction h with
  | bound hi h => exact .of_bind hi.shape_declared hi.wellNamed h
  | step _ o ih => exact ih.after o

/-! ### Runs -/

/-- The table behind operations, of which each may fail. -/
def run (t : Table) (operations : List Operation) : Table := operations.foldl after t

theorem Reachable.run {t : Table} (h : t.Reachable) (operations : List Operation) :
    (t.run operations).Reachable := by
  induction operations generalizing t with
  | nil => exact h
  | cons o rest ih => exact ih (h.step o)

/-! ### What operations leave alone -/

/-- The operations that leave a table in its dialect. -/
def Operation.KeepsDialect : Operation → Prop
  | .rebind _ => False
  | _ => True

/-- Whether a table goes by the names that another one goes by. -/
structure NamedLike (t u : Table) : Prop where
  shape : u.shape = t.shape
  schema : u.schema = t.schema
  dialect : u.dialect = t.dialect

theorem NamedLike.refl (t : Table) : t.NamedLike t := ⟨rfl, rfl, rfl⟩

theorem NamedLike.trans {t u v : Table} (h : t.NamedLike u) (h' : u.NamedLike v) : t.NamedLike v :=
  ⟨h'.shape.trans h.shape, h'.schema.trans h.schema, h'.dialect.trans h.dialect⟩

/-- A table keeps its names as long as it stays in its dialect. -/
theorem namedLike_after {t : Table} {o : Operation} (ho : o.KeepsDialect) : t.NamedLike (t.after o) := by
  cases h : t.perform o with
  | ok _ t' =>
    rw [after_ok h]
    cases o with
    | setValue column value =>
      obtain ⟨columns, _, rfl⟩ := setValue_ok h
      exact ⟨rfl, rfl, rfl⟩
    | addColumn c =>
      obtain ⟨_, _, b, _, rfl⟩ := addColumn_ok h
      exact ⟨rfl, rfl, rfl⟩
    | rebind d => exact ho.elim
    | withValues values =>
      obtain ⟨i, hi, hbind⟩ := Outcome.bind_eq_ok.1 (Change.replace_eq_ok.1 h)
      obtain ⟨_, _, hshape, hschema, _⟩ := Instance.create_ok hi
      obtain ⟨_, hdialect, rfl⟩ := bind_eq_ok_iff.1 hbind
      exact ⟨hshape, hschema, hdialect⟩
  | error p left =>
    rw [after_error h]
    exact .refl t

theorem namedLike_run {calls : List Operation} (hcalls : ∀ o ∈ calls, o.KeepsDialect) :
    ∀ t : Table, t.NamedLike (t.run calls) := by
  induction calls with
  | nil => exact .refl
  | cons o rest ih =>
    intro t
    obtain ⟨ho, hrest⟩ := List.forall_mem_cons.1 hcalls
    exact (namedLike_after ho).trans (ih hrest (t.after o))

/-- A value for a column that is no partition leaves the partitions alone. -/
theorem partitions_setValue {t t' : Table} {column value : String}
    (hc : ∀ c, t.column? column = some c → c.isPartition = false) (h : t.setValue column value = .ok () t') :
    t'.partitions = t.partitions := by
  obtain ⟨columns, hcolumns, rfl⟩ := setValue_ok h
  exact updateFirst?_filter hcolumns (fun _ => rfl) hc

/-- So does a further column that is none. -/
theorem partitions_addColumn {t t' : Table} {c : Column} (hc : c.isPartition = false)
    (h : t.addColumn c = .ok () t') : t'.partitions = t.partitions := by
  obtain ⟨_, _, b, hb, rfl⟩ := addColumn_ok h
  have hregular : b.isPartition = false := by
    rw [BoundColumn.isPartition, Binding.declared_of_column hb, hc]
  simp [partitions, List.filter_append, hregular]

/-! ### A table of visits -/

/-- The draft of a table of visits, by day and country, with personal data in one column. -/
def visits : Draft where
  name := "Visits"
  columns := [Column.scalar "id" .integer,
    { Column.scalar "email" .varchar with privacy := { dropOn := some .delete } },
    (Column.scalar "ds" .varchar).asPartition,
    { (Column.scalar "country" .varchar).asPartition with value := some "'nl'" }]

/-- The shape of the draft. -/
def visitShape : Shape where
  name := "Visits"
  description := none
  namePrefix := ""
  columns := visits.columns
  properties := []
  policies := Policies.none
  prototype := some ⟨visits.columns, [], Policies.none⟩

/-- A table of that shape. -/
def visitInstance : Instance where
  shape := visitShape
  schema := "web"
  columns := visits.columns
  properties := []
  policies := Policies.none

theorem visitInstance_declared : visitInstance.Declared := by
  have hbuild : visits.build = .ok visitShape := by cbv
  have hcreate : Instance.create visitShape "web" [] = .ok visitInstance := rfl
  exact .created ⟨visits, hbuild⟩ hcreate

/-- A table that can come about has names for its columns, no two the same; it is what binding its own
declarations gives; another dialect changes no declaration, so that binding it back restores the table;
and an operation that fails leaves it as it was. -/
theorem reachable_coherent {t : Table} (h : t.Reachable) :
    (∀ c ∈ t.columns, c.name ≠ "") ∧ (t.columns.map (·.name)).Nodup ∧
    (∀ c ∈ t.columns, Binding.column (target t.dialect) none c.declared = .ok c) ∧
    (∀ p ∈ t.properties, Binding.property (target t.dialect) p.declared = .ok p) ∧
    t.rebind t.dialect = .ok t ∧
    (∀ d t', t.rebind d = .ok t' →
      t'.dialect = d ∧ t'.toInstance = t.toInstance ∧ t'.rebind t.dialect = .ok t) ∧
    ∀ o p left, t.perform o = .error p left → left = t := by
  have hnodup := h.wellBound.names_nodup
  obtain ⟨_, hnamed, hcoherent⟩ := h.wellBound
  refine ⟨fun c hc => ?_, hnodup, hcoherent.columns, hcoherent.properties,
    hcoherent.rebind_self, ?_, fun _ _ _ => perform_error⟩
  · exact hnamed.named c.declared (List.mem_map_of_mem hc)
  · intro d t' ht'
    obtain ⟨_, hdialect, hinstance⟩ := bind_eq_ok_iff.1 ht'
    refine ⟨hdialect, hinstance, ?_⟩
    rw [Table.rebind, hinstance]
    exact hcoherent.rebind_self

theorem visits_coherent : ∃ t : Table, t.Reachable ∧
    t.columns.map (·.name) = ["id", "email", "ds", "country", "at"] ∧ t.dialect.name = "presto" ∧
      t.rebind t.dialect = .ok t := by
  have hbind : bind visitInstance .hive = .ok _ := rfl
  have hbound := Reachable.bound visitInstance_declared hbind
  have hset := (hbound.step (.setValue "id" "1")).step (.setValue "none" "2")
  have hrun := (hset.step (.addColumn (Column.scalar "at" .timestamp))).step (.rebind .presto)
  obtain ⟨_, _, _, _, hself, _⟩ := reachable_coherent hrun
  exact ⟨_, hrun, by cbv, by cbv, hself⟩

end Table

end Warehouse
