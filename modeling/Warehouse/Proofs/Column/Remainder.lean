import Warehouse.Proofs.Column.LoadItem

/-!
What is left of a column when its personal data is removed, said of the declaration and the vocabulary
alone: a rule to drop the value leaves `NULL` whatever transform there is, a transform leaves what it makes
of the column, and a column without either rule is left alone.
-/

namespace Warehouse

open Template (substitutePairs)

/-- Whether a rule of the column acts on deletion: the value is dropped or transformed. -/
def Column.Personal (c : Column) : Prop :=
  c.privacy.dropOn = some .delete ∨ c.privacy.onDelete ≠ none

instance (c : Column) : Decidable c.Personal :=
  inferInstanceAs (Decidable (c.privacy.dropOn = some .delete ∨ c.privacy.onDelete ≠ none))

theorem Column.hasDeleteRule_iff (c : Column) : c.privacy.hasDeleteRule = true ↔ c.Personal := by
  rw [Privacy.hasDeleteRule, Bool.or_eq_true, Privacy.dropsOn, beq_iff_eq, Option.isSome_iff_ne_none,
    Personal]

/-- The expression that is left of a column of this declaration. -/
inductive Remainder (v : Vocabulary) (c : Column) : String → Prop
  | dropped (hd : c.privacy.dropOn = some .delete) : Remainder v c "NULL"
  | transformed {template : String} (hd : c.privacy.dropOn ≠ some .delete)
      (ht : c.privacy.onDelete = some template) :
      Remainder v c (substitutePairs template [("quoted_name", v.quoteColumn c.name)])

/-- What is left of a column is determined by its declaration. -/
theorem Remainder.unique {v : Vocabulary} {c : Column} {value other : String} (h : Remainder v c value)
    (h' : Remainder v c other) : value = other := by
  cases h with
  | dropped hd =>
    cases h' with
    | dropped => rfl
    | transformed hd' => exact absurd hd hd'
  | transformed hd ht =>
    cases h' with
    | dropped hd' => exact absurd hd' hd
    | transformed _ ht' =>
      rw [ht] at ht'
      cases ht'
      rfl

/-- A column with a rule that acts on deletion leaves one expression. -/
theorem Column.Personal.remainder {c : Column} (hp : c.Personal) (v : Vocabulary) :
    ∃! value, Remainder v c value := by
  obtain ⟨value, hvalue⟩ : ∃ value, Remainder v c value := by
    by_cases hd : c.privacy.dropOn = some .delete
    · exact ⟨_, .dropped hd⟩
    · obtain ⟨template, ht⟩ := Option.ne_none_iff_exists'.1 (hp.resolve_left hd)
      exact ⟨_, .transformed hd ht⟩
  exact ⟨value, hvalue, fun other hother => hother.unique hvalue⟩

/-- A bound column with a rule that acts on deletion gives what is left of its declaration. -/
theorem Binding.ColumnCoherent.remainder {t : Target} {b : BoundColumn} (h : ColumnCoherent t b)
    (hp : b.declared.Personal) : Remainder t.vocabulary b.declared b.deleteValue := by
  rw [BoundColumn.deleteValue]
  split
  · next hd => exact .dropped (beq_iff_eq.1 hd)
  · next hd =>
    have hkept : b.declared.privacy.dropOn ≠ some .delete := mt beq_iff_eq.2 hd
    obtain ⟨template, ht⟩ := Option.ne_none_iff_exists'.1 (hp.resolve_left hkept)
    rw [Privacy.deleteTransform?, ht, Option.map_some, Option.getD_some, Privacy.transform, h.quotedName]
    exact .transformed hkept ht

end Warehouse
