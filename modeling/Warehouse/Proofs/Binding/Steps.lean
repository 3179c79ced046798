import Warehouse.Proofs.Table.Coherence

/-!
What a column that binds has had to pass: its class has a template, what the class needs is among its
attributes, and all that is nested in it binds.
-/

namespace Warehouse.Binding

open Outcome (bind_eq_ok mapM_eq_ok)

variable {t : Target}

theorem missing_eq_nil {needed : List String} {attributes : Attributes} :
    missing needed attributes = [] ↔ ∀ a ∈ needed, (attributes.find? a).isSome := by
  simp [missing, Dict.contains, Option.isSome_iff_ne_none]

theorem template_eq_ok {label text : String} {c : DeclarationClass} {attributes : Attributes} :
    template t label c attributes = .ok text ↔ t.vocabulary.template? c = some text ∧
      ∀ a ∈ t.vocabulary.required c, (attributes.find? a).isSome := by
  rw [← missing_eq_nil, template]
  split
  · next h => simp [h]
  · next found h =>
    split
    · next hm => simp [h, hm]
    · next hm => simp [h, show missing _ _ ≠ [] from hm]

theorem nestedColumns_eq_columnList (parent : String) (kind : Kind Column) :
    nestedColumns t parent kind = columnList t (some parent) kind.nested := by
  cases kind with
  | scalar => rw [nestedColumns, Kind.nested, columnList]
  | array element => rw [nestedColumns, Kind.nested, columnList, columnList]; rfl
  | map key value =>
    rw [nestedColumns, Kind.nested, columnList, columnList, columnList]
    cases column t (some parent) key <;> cases column t (some parent) value <;> rfl
  | row fields => rw [nestedColumns, Kind.nested]

theorem column_eq_ok {parent : Option String} {b : BoundColumn} {c : Column}
    (h : column t parent c = .ok b) : ∃ text nested,
      t.vocabulary.typeTemplate c.dataType = some text ∧
      (∀ a ∈ t.vocabulary.required (.column c.dataType), (c.attributes.find? a).isSome) ∧
      nested.map (·.declared) = c.nested ∧
      (∀ n ∈ nested, column t (some (label parent c)) n.declared = .ok n) ∧
      b = boundColumn t.vocabulary c text nested := by
  obtain ⟨declared, kind⟩ := c
  rw [column] at h
  obtain ⟨text, htext, h⟩ := bind_eq_ok.1 h
  obtain ⟨nested, hnested, h⟩ := bind_eq_ok.1 h
  obtain ⟨htemplate, hneeds⟩ := template_eq_ok.1 htext
  rw [nestedColumns_eq_columnList, columnList_eq_mapM] at hnested
  obtain ⟨hdeclared, hbound⟩ := (mapM_eq_ok fun _ _ => declared_of_column).1 hnested
  cases h
  exact ⟨text, nested, htemplate, hneeds, hdeclared, hbound, rfl⟩

end Warehouse.Binding
