import Warehouse.Proofs.Outcome
import Warehouse.Table

/-!
What a bound table has to do with its declarations. Each bound column is what binding makes of the
declaration it keeps, and so is each property; a table with this property is exactly what binding its
own declarations gives. Binding reads the name, the attributes and the kind of a declaration and no
more, so a new value leaves the rest of a bound column right.
-/

namespace Warehouse

open Outcome (bind_eq_ok mapM_cons mapM_eq_ok)

namespace Binding

/-- The column is what binding makes of its own declaration. -/
def ColumnCoherent (t : Target) (b : BoundColumn) : Prop := column t none b.declared = .ok b

/-- The property is what binding makes of its own declaration. -/
def PropertyCoherent (t : Target) (b : BoundProperty) : Prop := property t b.declared = .ok b

theorem declared_of_column {t : Target} {parent : Option String} {b : BoundColumn} :
    ∀ {c : Column}, column t parent c = .ok b → b.declared = c
  | ⟨declared, kind⟩, h => by
    rw [column] at h
    obtain ⟨text, _, h⟩ := bind_eq_ok.1 h
    obtain ⟨nested, _, h⟩ := bind_eq_ok.1 h
    cases h
    rfl

theorem declared_of_property {t : Target} {p : Property} {b : BoundProperty}
    (h : property t p = .ok b) : b.declared = p := by
  obtain ⟨text, _, h⟩ := bind_eq_ok.1 h
  cases h
  rfl

theorem quotedName_of_column {t : Target} {parent : Option String} {b : BoundColumn} :
    ∀ {c : Column}, column t parent c = .ok b → b.quotedName = t.vocabulary.quoteColumn c.name
  | ⟨declared, kind⟩, h => by
    rw [column] at h
    obtain ⟨text, _, h⟩ := bind_eq_ok.1 h
    obtain ⟨nested, _, h⟩ := bind_eq_ok.1 h
    cases h
    rfl

/-- A declaration of the same name, attributes and kind binds the same way. -/
theorem column_redeclare {t : Target} {parent : Option String} {c e : Column}
    (hn : e.name = c.name) (ha : e.attributes = c.attributes) (hk : e.kind = c.kind)
    {b : BoundColumn} (h : column t parent c = .ok b) :
    column t parent e = .ok { b with declared := e } := by
  obtain ⟨d, kind⟩ := c
  obtain ⟨d', kind'⟩ := e
  cases hk
  replace hn : d'.name = d.name := hn
  replace ha : d'.attributes = d.attributes := ha
  have hl : label parent ⟨d', kind⟩ = label parent ⟨d, kind⟩ := by
    simp only [label, Column.dataType, hn]
  rw [column] at h ⊢
  obtain ⟨text, htext, h⟩ := bind_eq_ok.1 h
  obtain ⟨nested, hnested, h⟩ := bind_eq_ok.1 h
  cases h
  refine bind_eq_ok.2 ⟨text, by rw [hl, ha]; exact htext, ?_⟩
  refine bind_eq_ok.2 ⟨nested, by rw [hl]; exact hnested, ?_⟩
  simp only [boundColumn, columnContext, Column.dataType, hn, ha]

theorem ColumnCoherent.setValue {t : Target} {b : BoundColumn} (h : ColumnCoherent t b)
    (value : String) : ColumnCoherent t { b with declared := b.declared.setValue value } :=
  column_redeclare (c := b.declared) (e := b.declared.setValue value) rfl rfl rfl h

theorem columnList_eq_mapM (t : Target) (parent : Option String) : ∀ cs : List Column,
    columnList t parent cs = cs.mapM (column t parent)
  | [] => by rw [columnList]; rfl
  | c :: rest => by rw [columnList, columnList_eq_mapM t parent rest, mapM_cons]

theorem columnList_eq_ok {t : Target} {cs : List Column} {bs : List BoundColumn} :
    columnList t none cs = .ok bs ↔ bs.map (·.declared) = cs ∧ ∀ b ∈ bs, ColumnCoherent t b := by
  rw [columnList_eq_mapM]
  exact mapM_eq_ok fun _ _ => declared_of_column

end Binding

open Binding (ColumnCoherent PropertyCoherent)

namespace Table

theorem bindProperties_eq_mapM (t : Binding.Target) : ∀ ps : List Property,
    bindProperties t ps = ps.mapM (Binding.property t)
  | [] => rfl
  | p :: rest => by rw [bindProperties, bindProperties_eq_mapM t rest, mapM_cons]

theorem bindProperties_eq_ok {t : Binding.Target} {ps : List Property} {bs : List BoundProperty} :
    bindProperties t ps = .ok bs ↔ bs.map (·.declared) = ps ∧ ∀ b ∈ bs, PropertyCoherent t b := by
  rw [bindProperties_eq_mapM]
  exact mapM_eq_ok fun _ _ => Binding.declared_of_property

/-- Every column and every property of the table is what binding makes of its declaration. -/
structure Coherent (t : Table) : Prop where
  columns : ∀ b ∈ t.columns, ColumnCoherent (target t.dialect) b
  properties : ∀ b ∈ t.properties, PropertyCoherent (target t.dialect) b

/-- Binding gives the coherent table of the instance in the dialect, and gives nothing else. -/
theorem bind_eq_ok_iff {i : Instance} {d : Dialect} {t : Table} :
    bind i d = .ok t ↔ t.Coherent ∧ t.dialect = d ∧ t.toInstance = i := by
  constructor
  · intro h
    obtain ⟨columns, hcolumns, h⟩ := bind_eq_ok.1 h
    obtain ⟨properties, hproperties, h⟩ := bind_eq_ok.1 h
    cases h
    obtain ⟨hcmap, hc⟩ := Binding.columnList_eq_ok.1 hcolumns
    obtain ⟨hpmap, hp⟩ := bindProperties_eq_ok.1 hproperties
    refine ⟨⟨hc, hp⟩, rfl, ?_⟩
    simp only [toInstance, hcmap, hpmap]
  · rintro ⟨⟨hc, hp⟩, rfl, rfl⟩
    refine bind_eq_ok.2 ⟨t.columns, Binding.columnList_eq_ok.2 ⟨rfl, hc⟩, ?_⟩
    exact bind_eq_ok.2 ⟨t.properties, bindProperties_eq_ok.2 ⟨rfl, hp⟩, rfl⟩

theorem Coherent.rebind_self {t : Table} (h : t.Coherent) : t.rebind t.dialect = .ok t :=
  bind_eq_ok_iff.2 ⟨h, rfl, rfl⟩

end Table

end Warehouse
