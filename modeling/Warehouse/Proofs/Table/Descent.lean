import Warehouse.Proofs.Table.Reachable

/-!
Where the columns of a table come from. Whatever happened to a table, its columns are those of the
prototype of its shape, in order, and behind them the columns added since it was last made afresh; only the
values are its own. What the columns need in order to bind does not hang on their values, so a table of the
same shape with other values can always be made; the added columns are not among those of its shape and get
lost.
-/

namespace Warehouse

open Outcome (bind_eq_ok error?_eq_none)

/-- The declaration of a column, apart from its value. -/
def Column.unset (c : Column) : Column := { c with value := none, manuallySet := false }

/-- The instance has the columns of the prototype and behind them the added ones, apart from values. -/
structure Instance.Descends (p : Prototype) (added : List Column) (i : Instance) : Prop where
  prototype : i.shape.prototype = some p
  columns : i.columns.map (·.unset) = p.columns.map (·.unset) ++ added.map (·.unset)
  properties : i.properties = p.properties

/-! ### Instances -/

namespace Instance

theorem seeds_unset (entries : List (String × String)) (columns : List Column) :
    (entries.foldl seed columns).map (·.unset) = columns.map (·.unset) :=
  seeds_map (fun _ _ => rfl) entries columns

theorem create_descends {shape : Shape} {schema : String} {values : List (String × String)} {i : Instance}
    (h : create shape schema values = .ok i) : ∃ p, i.Descends p [] := by
  obtain ⟨p, hp, hi⟩ := bind_eq_ok.1 h
  cases hi
  refine ⟨p, Shape.requirePrototype_eq_ok.1 hp, ?_, rfl⟩
  rw [List.map_nil, List.append_nil]
  exact seeds_unset values p.columns

theorem Descends.setValue {p : Prototype} {added : List Column} {i : Instance} (hi : i.Descends p added)
    (column value : String) : (i.setValue column value).left.Descends p added := by
  obtain ⟨columns, hleft, rfl | hc⟩ := i.left_setValue column value <;> rw [hleft]
  · exact hi
  · exact ⟨hi.prototype, (updateFirst?_map hc (·.unset) fun _ => rfl).trans hi.columns, hi.properties⟩

/-- Setting values adds no columns. -/
theorem Declared.descends {i : Instance} (h : i.Declared) : ∃ p, i.Descends p [] := by
  induction h with
  | created _ h => exact create_descends h
  | valueSet _ column value ih =>
    obtain ⟨p, hi⟩ := ih
    exact ⟨p, hi.setValue column value⟩

end Instance

namespace Table

/-! ### Each operation on a table -/

section Operations

variable {p : Prototype} {added : List Column} {t t' : Table} (ht : t.toInstance.Descends p added)
include ht

theorem setValue_descends {column value : String} (h : t.setValue column value = .ok () t') :
    t'.toInstance.Descends p added := by
  obtain ⟨columns, hc, rfl⟩ := setValue_ok h
  refine ⟨ht.prototype, Eq.trans ?_ ht.columns, ht.properties⟩
  rw [toInstance, toInstance, List.map_map, List.map_map]
  exact updateFirst?_map hc (·.declared.unset) fun _ => rfl

theorem addColumn_descends {c : Column} (h : t.addColumn c = .ok () t') :
    t'.toInstance.Descends p (added ++ [c]) := by
  obtain ⟨_, _, b, hb, rfl⟩ := addColumn_ok h
  refine ⟨ht.prototype, ?_, ht.properties⟩
  rw [List.map_append, ← List.append_assoc, ← ht.columns, toInstance, toInstance, List.map_append,
    List.map_append, List.map_singleton, List.map_singleton, List.map_singleton,
    Binding.declared_of_column hb]

theorem rebind_descends {d : Dialect} (h : t.rebind d = .ok t') : t'.toInstance.Descends p added := by
  obtain ⟨_, _, hinstance⟩ := bind_eq_ok_iff.1 h
  rw [hinstance]
  exact ht

end Operations

/-- A fresh table has no columns but those of its shape. -/
theorem withValues_descends {t t' : Table} {values : Dict String} (h : t.withValues values = .ok t') :
    ∃ p, t'.toInstance.Descends p [] := by
  obtain ⟨i, hi, hbind⟩ := bind_eq_ok.1 h
  obtain ⟨_, _, rfl⟩ := bind_eq_ok_iff.1 hbind
  exact Instance.create_descends hi

/-- The columns added to those of the shape behind an operation, given those added before. -/
def addedAfter (t : Table) (added : List Column) (o : Operation) : List Column :=
  match t.perform o with
  | .error _ _ => added
  | .ok _ _ =>
    match o with
    | .addColumn c => added ++ [c]
    | .withValues _ => []
    | .setValue .. | .rebind _ => added

theorem after_descends {p : Prototype} {added : List Column} {t : Table}
    (ht : t.toInstance.Descends p added) (o : Operation) :
    ∃ q, (t.after o).toInstance.Descends q (t.addedAfter added o) := by
  unfold addedAfter
  cases h : t.perform o with
  | error problem left =>
    rw [after_error h]
    exact ⟨p, ht⟩
  | ok _ t' =>
    rw [after_ok h]
    cases o with
    | setValue column value => exact ⟨p, setValue_descends ht h⟩
    | addColumn c => exact ⟨p, addColumn_descends ht h⟩
    | rebind d => exact ⟨p, rebind_descends ht (Change.replace_eq_ok.1 h)⟩
    | withValues values => exact withValues_descends (Change.replace_eq_ok.1 h)

theorem bind_descends {i : Instance} {d : Dialect} {t : Table} (hi : i.Declared) (h : bind i d = .ok t) :
    ∃ p, t.toInstance.Descends p [] := by
  obtain ⟨_, _, rfl⟩ := bind_eq_ok_iff.1 h
  exact hi.descends

theorem Reachable.descends {t : Table} (h : t.Reachable) :
    ∃ p added, t.toInstance.Descends p added := by
  induction h with
  | bound hi h =>
    obtain ⟨p, hp⟩ := bind_descends hi h
    exact ⟨p, [], hp⟩
  | step _ o ih =>
    obtain ⟨p, added, ht⟩ := ih
    obtain ⟨q, hq⟩ := after_descends ht o
    exact ⟨q, _, hq⟩

/-! ### Fresh tables -/

/-- A declaration binds when one that differs from it in the value does. -/
theorem Coherent.column_binds {t : Table} (ht : t.Coherent) {c : Column}
    (hc : c.unset ∈ t.toInstance.columns.map (·.unset)) :
    ∃ b, Binding.column (target t.dialect) none c = .ok b := by
  rw [toInstance, List.map_map] at hc
  obtain ⟨b, hb, hunset⟩ := List.mem_map.1 hc
  replace hunset : b.declared.unset = c.unset := hunset
  have hname : c.name = b.declared.name := congrArg (·.name) hunset.symm
  have hattributes : c.attributes = b.declared.attributes := congrArg (·.attributes) hunset.symm
  have hkind : c.kind = b.declared.kind := congrArg (·.kind) hunset.symm
  exact ⟨_, Binding.column_redeclare hname hattributes hkind (ht.columns b hb)⟩

/-- A table of the same shape with other values can be made at any time. -/
theorem Coherent.exists_withValues {t : Table} (ht : t.Coherent) {p : Prototype} {added : List Column}
    (hp : t.toInstance.Descends p added) (values : Dict String) : ∃ old, t.withValues values = .ok old := by
  have hbinds : ∀ c ∈ values.entries.foldl Instance.seed p.columns,
      Outcome.error? (Binding.column (target t.dialect) none c) = none := by
    intro c hc
    refine error?_eq_none.2 (ht.column_binds ?_)
    rw [hp.columns]
    refine List.mem_append_left _ ?_
    rw [← Instance.seeds_unset values.entries p.columns]
    exact List.mem_map_of_mem hc
  obtain ⟨columns, hcolumns⟩ : ∃ columns, Binding.columnList (target t.dialect) none
      (values.entries.foldl Instance.seed p.columns) = .ok columns := by
    rw [Binding.columnList_eq_mapM, ← error?_eq_none, Outcome.error?_mapM]
    exact List.findSome?_eq_none_iff.2 hbinds
  have hproperties : bindProperties (target t.dialect) p.properties = .ok t.properties := by
    rw [← hp.properties]
    exact bindProperties_eq_ok.2 ⟨rfl, ht.properties⟩
  have hprototype : t.shape.requirePrototype = .ok p := Shape.requirePrototype_eq_ok.2 hp.prototype
  exact ⟨_, bind_eq_ok.2 ⟨_, bind_eq_ok.2 ⟨p, hprototype, rfl⟩,
    bind_eq_ok.2 ⟨columns, hcolumns, bind_eq_ok.2 ⟨t.properties, hproperties, rfl⟩⟩⟩⟩

end Table

end Warehouse
