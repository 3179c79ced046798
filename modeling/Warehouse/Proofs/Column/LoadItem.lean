import Mathlib.Data.List.Forall2
import Warehouse.Proofs.Table.Coherence
import Warehouse.Proofs.Template.Cuts

/-!
The item that feeds a column when its table is loaded, said of the declaration and the vocabulary alone:
a partition is fed its value or the rows, a column set by hand is fed what it was set to, and else privacy
decides, where dropping comes before transforming. What a bound column gives is the one such item.
-/

namespace Warehouse

open Template (BraceFree Separates filledSlot slot substitute substitutePairs)

namespace Column

/-- Whether the column is dropped when it is loaded: it is no partition, was not set by hand, and has the
rule. -/
structure Dropped (c : Column) : Prop where
  regular : c.isPartition = false
  unset : c.manuallySet = false
  rule : c.privacy.dropOn = some .insert

theorem currentValue?_eq_some_iff {c : Column} {v : String} :
    c.currentValue? = some v ↔ c.value = some v ∧ v ≠ "" := by
  rw [currentValue?, Option.filter_eq_some_iff, bne_iff_ne]

theorem currentValue?_eq_none_iff {c : Column} :
    c.currentValue? = none ↔ ∀ v, c.value = some v → v = "" := by
  rw [currentValue?, Option.filter_eq_none_iff]
  exact forall₂_congr fun v _ => by simp

end Column

/-- The item that assigns a value to the column of this name. -/
def Vocabulary.assign (v : Vocabulary) (name value : String) : String :=
  substitutePairs v.columnSetter [("value", value), ("name", v.quoteColumn name)]

/-- The item that feeds a column of this declaration when its table is loaded. -/
inductive LoadItem (v : Vocabulary) (c : Column) : String → Prop
  | partitionValue {value : String} (hp : c.isPartition = true) (hv : c.value = some value)
      (hne : value ≠ "") : LoadItem v c (v.assign c.name value)
  | partitionRows (hp : c.isPartition = true) (hv : ∀ value, c.value = some value → value = "") :
      LoadItem v c (v.quoteColumn c.name)
  | handSet {value : String} (hp : c.isPartition = false) (hm : c.manuallySet = true)
      (hv : c.value = some value) (hne : value ≠ "") : LoadItem v c (v.assign c.name value)
  | handEmptied (hp : c.isPartition = false) (hm : c.manuallySet = true)
      (hv : ∀ value, c.value = some value → value = "") :
      LoadItem v c (v.assign c.name (v.quoteColumn c.name))
  | dropped (hp : c.isPartition = false) (hm : c.manuallySet = false)
      (hd : c.privacy.dropOn = some .insert) : LoadItem v c (v.assign c.name "NULL")
  | transformed {template : String} (hp : c.isPartition = false) (hm : c.manuallySet = false)
      (hd : c.privacy.dropOn ≠ some .insert) (ht : c.privacy.onInsert = some template) :
      LoadItem v c
        (v.assign c.name (substitutePairs template [("quoted_name", v.quoteColumn c.name)]))
  | copied (hp : c.isPartition = false) (hm : c.manuallySet = false)
      (hd : c.privacy.dropOn ≠ some .insert) (ht : c.privacy.onInsert = none) :
      LoadItem v c (v.quoteColumn c.name)

namespace Binding

theorem setterTemplate_of_column {t : Target} {parent : Option String} {b : BoundColumn} :
    ∀ {c : Column}, column t parent c = .ok b → b.setterTemplate = t.vocabulary.columnSetter
  | ⟨declared, kind⟩, h => by
    rw [column] at h
    obtain ⟨text, _, h⟩ := Outcome.bind_eq_ok.1 h
    obtain ⟨nested, _, h⟩ := Outcome.bind_eq_ok.1 h
    cases h
    rfl

theorem ColumnCoherent.quotedName {t : Target} {b : BoundColumn} (h : ColumnCoherent t b) :
    b.quotedName = t.vocabulary.quoteColumn b.declared.name :=
  quotedName_of_column h

theorem ColumnCoherent.setter {t : Target} {b : BoundColumn} (h : ColumnCoherent t b)
    (value : String) : b.setter value = t.vocabulary.assign b.declared.name value := by
  rw [BoundColumn.setter, setterTemplate_of_column h, h.quotedName, Vocabulary.assign]

/-- Texts of bound columns, one after the other, are texts of their declarations. -/
theorem forall₂_declared {R : Column → String → Prop} {columns : List BoundColumn}
    {text : BoundColumn → String} (h : ∀ b ∈ columns, R b.declared (text b)) :
    List.Forall₂ R (columns.map (·.declared)) (columns.map text) := by
  rw [List.forall₂_map_left_iff, List.forall₂_map_right_iff, List.forall₂_same]
  exact h

/-- A bound column gives an item that its declaration may be fed with. -/
theorem ColumnCoherent.loadItem {t : Target} {b : BoundColumn} (h : ColumnCoherent t b) :
    LoadItem t.vocabulary b.declared b.loadValue := by
  have hdrop : b.declared.privacy.dropsOn .insert = true ↔
      b.declared.privacy.dropOn = some .insert := beq_iff_eq
  rw [BoundColumn.loadValue]
  split
  · next hp =>
    split
    · next value hv =>
      obtain ⟨hvalue, hne⟩ := Column.currentValue?_eq_some_iff.1 hv
      rw [h.setter]
      exact .partitionValue hp hvalue hne
    · next hv =>
      rw [h.quotedName]
      exact .partitionRows hp (Column.currentValue?_eq_none_iff.1 hv)
  · next hp =>
    replace hp : b.declared.isPartition = false := by simpa using hp
    split
    · next hm =>
      rw [h.setter]
      cases hv : b.declared.currentValue? with
      | some value =>
        obtain ⟨hvalue, hne⟩ := Column.currentValue?_eq_some_iff.1 hv
        exact .handSet hp hm hvalue hne
      | none =>
        rw [Option.getD_none, h.quotedName]
        exact .handEmptied hp hm (Column.currentValue?_eq_none_iff.1 hv)
    · next hm =>
      replace hm : b.declared.manuallySet = false := by simpa using hm
      split
      · next hd =>
        rw [h.setter]
        exact .dropped hp hm (hdrop.1 hd)
      · next hd =>
        replace hd := mt hdrop.2 hd
        cases ht : b.declared.privacy.onInsert with
        | some template =>
          simp only [Privacy.insertTransform?, ht, Option.map_some, h.setter, h.quotedName]
          exact .transformed hp hm hd ht
        | none =>
          simp only [Privacy.insertTransform?, ht, Option.map_none, h.quotedName]
          exact .copied hp hm hd ht

end Binding

/-- A regular column that is dropped on loading and was not set by hand is fed nothing else, whatever value
or transform it has. -/
theorem LoadItem.of_dropped {v : Vocabulary} {c : Column} (hc : c.Dropped) {item : String}
    (h : LoadItem v c item) : item = v.assign c.name "NULL" := by
  obtain ⟨hregular, hunset, hrule⟩ := hc
  cases h with
  | partitionValue hp _ _ => simp [hregular] at hp
  | partitionRows hp _ => simp [hregular] at hp
  | handSet _ hm _ _ => simp [hunset] at hm
  | handEmptied _ hm _ => simp [hunset] at hm
  | dropped _ _ _ => rfl
  | transformed _ _ hd _ => exact absurd hrule hd
  | copied _ _ hd _ => exact absurd hrule hd

/-- A regular column that was not set by hand and is not dropped on loading is fed what its transform makes
of it. -/
theorem LoadItem.of_transformed {v : Vocabulary} {c : Column} {template : String}
    (hregular : c.isPartition = false) (hunset : c.manuallySet = false)
    (hkept : c.privacy.dropOn ≠ some .insert) (htransform : c.privacy.onInsert = some template)
    {item : String} (h : LoadItem v c item) :
    item = v.assign c.name (substitutePairs template [("quoted_name", v.quoteColumn c.name)]) := by
  cases h with
  | partitionValue hp _ _ => simp [hregular] at hp
  | partitionRows hp _ => simp [hregular] at hp
  | handSet _ hm _ _ => simp [hunset] at hm
  | handEmptied _ hm _ => simp [hunset] at hm
  | dropped _ _ hd => exact absurd hd hkept
  | transformed _ _ _ ht =>
    obtain rfl := Option.some.inj (htransform.symm.trans ht)
    rfl
  | copied _ _ _ ht => simp [htransform] at ht

/-! ### The setters of the built-in vocabularies -/

namespace Vocabulary

/-- A setter of two slots, the value before the name, puts the one before the other. -/
theorem assign_of_setter {v : Vocabulary} {between : String} (hs : Separates between.toList)
    (h : v.columnSetter = slot "value" ++ between ++ slot "name") (name value : String) :
    v.assign name value = value ++ between ++ v.quoteColumn name := by
  have hvalue : BraceFree "value" := by decide
  have hname : BraceFree "name" := by decide
  rw [assign, h, substitutePairs, Template.substitute_separated _ hs,
    Template.substitute_slot hvalue, Template.substitute_slot hname]
  rfl

theorem assign_as {v : Vocabulary} (h : v.columnSetter = presto.columnSetter) (name value : String) :
    v.assign name value = value ++ " AS " ++ v.quoteColumn name :=
  assign_of_setter ⟨' ', _, rfl, by decide, by decide⟩ h name value

theorem assign_blank {v : Vocabulary} (h : v.columnSetter = hive.columnSetter) (name value : String) :
    v.assign name value = value ++ " " ++ v.quoteColumn name :=
  assign_of_setter ⟨' ', _, rfl, by decide, by decide⟩ h name value

end Vocabulary

end Warehouse
