import Warehouse.Policy
import Warehouse.Proofs.Table.Comparisons
import Warehouse.Statement.Anonymise
import Warehouse.Statement.Delete

/-!
The statements that act on the partition in scope, read as text: each is one of four forms, and the
conditions of the scope are all that restricts it. Without conditions nothing does.
-/

namespace Warehouse

open Template (Separates)

/-- The part of a statement that restricts it to the rows with all these conditions. -/
def restriction (conditions : List String) : String :=
  if conditions = [] then "" else " WHERE " ++ String.intercalate " AND " conditions

/-- The forms of a statement that acts on rows of the table with all these conditions, by the kind of the
policy that it applies. -/
inductive Restricted (t : Table) (suffix : String) (conditions : List String) :
    PolicyKind → String → Prop
  | delete (h : t.dialect ≠ .hive) : Restricted t suffix conditions .partitionRetention
      ("DELETE FROM " ++ t.reference suffix ++ restriction conditions ++ t.dialect.terminator)
  | drop (h : t.dialect = .hive) : Restricted t suffix conditions .partitionRetention
      ("ALTER TABLE " ++ t.reference suffix ++ " DROP IF EXISTS PARTITION (" ++
        String.intercalate ", " conditions ++ ") PURGE")
  | update (h : t.dialect ≠ .hive) (assignments : String) :
      Restricted t suffix conditions .partitionAnonymisation
        ("UPDATE " ++ t.reference suffix ++ " SET " ++ assignments ++ restriction conditions ++
          t.dialect.terminator)
  | overwrite (h : t.dialect = .hive) (items : String) :
      Restricted t suffix conditions .partitionAnonymisation
        (t.overwrite ("SELECT " ++ items ++ " FROM " ++ t.reference suffix ++ restriction conditions)
          suffix)

theorem intercalate_ne_empty {sep : String} {l : List String} (hl : l ≠ []) (h : ∀ s ∈ l, s ≠ "") :
    String.intercalate sep l ≠ "" := by
  obtain ⟨s, rest, rfl⟩ := List.exists_cons_of_ne_nil hl
  have hs : s ≠ "" := h s List.mem_cons_self
  cases rest with
  | nil => simpa using hs
  | cons _ _ => simp [String.append_eq_empty_iff, hs]

theorem whereClause_intercalate {conditions : List String} (h : ∀ c ∈ conditions, c ≠ "") :
    whereClause (String.intercalate " AND " conditions) = restriction conditions := by
  rw [whereClause, restriction]
  by_cases hc : conditions = []
  · rw [if_pos hc, hc]
    rfl
  · rw [if_neg hc, if_neg (intercalate_ne_empty hc h)]

namespace Table

/-- A comparison is never empty, whatever is filled in on its sides. -/
theorem comparison_ne_empty (t : Table) (params : Dict String) (p : BoundColumn) :
    t.comparison params p ≠ "" := by
  rw [comparison_sides]
  simp [String.append_eq_empty_iff]

theorem partitionCondition_eq_empty (t : Table) (scope : Scope) :
    t.partitionCondition scope.condition scope.ignored " AND " = "" ↔ t.conditions scope = [] := by
  have hparts : ∀ c ∈ t.partitionConditions scope.condition scope.ignored, c ≠ "" := by
    intro c hc
    rcases List.mem_append.1 hc with hc | hc
    · obtain ⟨p, _, rfl⟩ := List.mem_map.1 hc
      simp [String.append_eq_empty_iff]
    · have := Option.mem_toList.1 hc
      simpa using (Option.filter_eq_some_iff.1 this).2
  have hlength : t.conditions scope = [] ↔
      t.partitionConditions scope.condition scope.ignored = [] := by
    simp only [conditions, comparisons, furtherConditions, partitionConditions, List.append_eq_nil_iff,
      List.map_eq_nil_iff]
  rw [hlength, partitionCondition]
  constructor
  · intro h
    by_contra hne
    exact intercalate_ne_empty hne hparts h
  · intro h
    rw [h, String.intercalate_nil]

theorem partitionDeletion_condition (t : Table) (scope : Scope) :
    (t.deletion (t.partitionDeleteOptions scope)).condition =
      if t.conditions scope = [] then none
      else some (String.intercalate " AND " (t.conditions scope)) := by
  have hempty := t.partitionCondition_eq_empty scope
  simp only [deletion, partitionDeleteOptions, Option.filter_some, bne_iff_ne, ne_eq]
  by_cases hc : t.conditions scope = []
  · rw [if_neg (not_not.2 (hempty.2 hc)), if_pos hc, Option.map_none]
  · rw [if_pos (mt hempty.1 hc), if_neg hc, Option.map_some,
      t.substitute_partitionCondition scope separates_and]

/-- Outside Hive deleting a partition is deleting its rows. -/
theorem deletePartition_eq {t : Table} {scope : Scope} (hd : t.dialect ≠ .hive) :
    t.deletePartition scope = t.deleteFrom (t.partitionDeleteOptions scope) := by
  rw [deletePartition]
  split
  · contradiction
  · rfl

theorem deletePartition_restricted (t : Table) (scope : Scope) :
    Restricted t scope.suffix (t.conditions scope) .partitionRetention (t.deletePartition scope) := by
  by_cases hd : t.dialect = .hive
  · have htext : t.deletePartition scope = "ALTER TABLE " ++ t.reference scope.suffix ++
        " DROP IF EXISTS PARTITION (" ++ String.intercalate ", " (t.conditions scope) ++ ") PURGE" := by
      rw [deletePartition, hd, scopedCondition_eq t scope separates_comma]
    rw [htext]
    exact .drop hd
  · have htext : t.deletePartition scope = "DELETE FROM " ++ t.reference scope.suffix ++
        restriction (t.conditions scope) ++ t.dialect.terminator := by
      rw [deletePartition_eq hd, deleteFrom]
      -- by its equation the text would be unfolded down to its characters
      delta Deletion.text
      rw [partitionDeletion_condition, restriction]
      by_cases hc : t.conditions scope = [] <;> simp [deletion, partitionDeleteOptions, hc]
    rw [htext]
    exact .delete hd

theorem anonymousQuery_text (t : Table) (scope : Scope) : (t.anonymousQuery scope).text =
    "SELECT " ++ String.intercalate ", " (t.anonymousQuery scope).items ++ " FROM " ++
      t.reference scope.suffix ++ whereClause (String.intercalate " AND " (t.conditions scope)) := by
  rw [← scopedCondition_eq t scope separates_and, Query.text]
  simp [anonymousQuery]

theorem anonymisePartition_restricted {t : Table} {scope : Scope} {sql : String}
    (hc : ∀ c ∈ t.conditions scope, c ≠ "") (h : t.anonymisePartition scope = some sql) :
    Restricted t scope.suffix (t.conditions scope) .partitionAnonymisation sql := by
  rw [anonymisePartition] at h
  split at h
  · cases h
  · split at h
    · next hd =>
      cases h
      rw [anonymousQuery_text, whereClause_intercalate hc]
      exact .overwrite hd _
    · next hd =>
      cases h
      rw [anonymisation, Update.text, scopedCondition_eq t scope separates_and,
        whereClause_intercalate hc]
      exact .update hd _

end Table

end Warehouse
