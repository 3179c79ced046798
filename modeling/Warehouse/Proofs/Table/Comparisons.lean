import Warehouse.Proofs.Dict.Lookup
import Warehouse.Proofs.Table.Reachable
import Warehouse.Proofs.Template.Cuts
import Warehouse.Proofs.Vocabulary.Quoted
import Warehouse.Table.Scope

/-!
The condition of a scope, taken apart. It is written as one text with a slot for each value and filled in
as one text; because its separators cut it, this is the same as filling in each comparison alone. What a
comparison then says of its partition hangs on the parameters, on the value of the partition, and on
whether the name of the partition can be the name of a slot.
-/

namespace Warehouse

open Template (BraceFree Separates filledSlot slot substitute)

theorem QuoteStyle.quote_plain (q : QuoteStyle) {name : String} (h : BraceFree name) :
    '\x7b' ∉ (q.quote name).toList := by
  have hmark : q.mark ≠ '\x7b' := by cases q <;> decide
  intro hmem
  simp only [quote, String.toList_ofList, quoteChars, Text.replaceChar, List.mem_cons, List.mem_append,
    List.mem_flatMap, List.not_mem_nil, or_false] at hmem
  rcases hmem with hmem | ⟨c, hc, hmem⟩ | hmem
  · exact hmark hmem.symm
  · split at hmem
    · have hc' : '\x7b' = q.mark := by simpa using hmem
      exact hmark hc'.symm
    · obtain rfl := List.mem_singleton.1 hmem
      exact h.1 hc
  · exact hmark hmem.symm

namespace Table

/-- The comparison of a partition, filled in. -/
def comparison (t : Table) (params : Dict String) (p : BoundColumn) : String :=
  substitute (p.quotedName ++ " = " ++ slot p.name) (t.partitionParams params).find?

/-- The comparisons of a scope, each with the name of the partition that it compares. -/
def comparisons (t : Table) (scope : Scope) : List (String × String) :=
  (t.partitions.filter fun p => !scope.ignored.contains p.name).map fun p =>
    (p.name, t.comparison scope.params p)

/-- What else the scope asks, filled in. -/
def furtherConditions (t : Table) (scope : Scope) : List String :=
  (scope.condition.filter (· != "")).toList.map
    (substitute · (t.partitionParams scope.params).find?)

/-- The conditions of a scope as they are written: its comparisons, then what else it asks. -/
def conditions (t : Table) (scope : Scope) : List String :=
  (t.comparisons scope).map Prod.snd ++ t.furtherConditions scope

/-- Whether one of the conditions of the scope is the equality of the quoted name and the value. -/
def Equates (t : Table) (scope : Scope) (name value : String) : Prop :=
  t.vocabulary.quoteColumn name ++ " = " ++ value ∈ t.conditions scope

/-! ### Filling in one by one -/

theorem substitute_partitionCondition (t : Table) (scope : Scope) {sep : String}
    (hs : Separates sep.toList) :
    substitute (t.partitionCondition scope.condition scope.ignored sep)
      (t.partitionParams scope.params).find? = String.intercalate sep (t.conditions scope) := by
  rw [partitionCondition, Template.substitute_intercalate _ hs, partitionConditions, List.map_append,
    conditions, comparisons, furtherConditions, List.map_map, List.map_map]
  rfl

theorem scopedCondition_eq (t : Table) (scope : Scope) {sep : String} (hs : Separates sep.toList) :
    t.scopedCondition scope sep = String.intercalate sep (t.conditions scope) :=
  t.substitute_partitionCondition scope hs

theorem separates_and : Separates " AND ".toList := ⟨' ', _, rfl, by decide, by decide⟩

theorem separates_comma : Separates ", ".toList := ⟨',', _, rfl, by decide, by decide⟩

/-! ### What a comparison says -/

/-- Both sides of a comparison are filled in: the quoted name as well as the slot behind it. -/
theorem comparison_sides (t : Table) (params : Dict String) (p : BoundColumn) :
    t.comparison params p = substitute p.quotedName (t.partitionParams params).find? ++ " = " ++
      substitute (slot p.name) (t.partitionParams params).find? := by
  have hs : Template.Separates " = ".toList := ⟨' ', _, rfl, by decide, by decide⟩
  rw [comparison, Template.substitute_separated _ hs]

/-- A scope equates a name with a value when a comparison comes out as their equality, or the scope asks
for it itself. -/
theorem equates_iff {t : Table} {scope : Scope} {name value : String} :
    t.Equates scope name value ↔
      (∃ q ∈ t.partitions, q.name ∉ scope.ignored ∧
        t.comparison scope.params q = t.vocabulary.quoteColumn name ++ " = " ++ value) ∨
      t.vocabulary.quoteColumn name ++ " = " ++ value ∈ t.furtherConditions scope := by
  simp only [Equates, conditions, comparisons, List.map_map, List.mem_append, List.mem_map,
    List.mem_filter, Function.comp_apply, Bool.not_eq_true', ← Bool.not_eq_true,
    List.contains_iff_mem, and_assoc]

section WellBound

variable {t : Table} (ht : t.WellBound)
include ht

theorem WellBound.quotedName {p : BoundColumn} (hp : p ∈ t.columns) :
    p.quotedName = t.vocabulary.quoteColumn p.name :=
  Binding.quotedName_of_column (ht.coherent.columns p hp)

theorem WellBound.partitions_nodup : (t.partitions.map (·.name)).Nodup :=
  ht.names_nodup.sublist (List.filter_sublist.map _)

theorem WellBound.partition_ext {p q : BoundColumn} (hp : p ∈ t.partitions) (hq : q ∈ t.partitions)
    (h : p.name = q.name) : p = q :=
  List.inj_on_of_nodup_map ht.partitions_nodup hp hq h

/-- What is filled in for a name: its parameter, or else the own value that is listed under it. -/
theorem WellBound.partitionParams_lookup (params : Dict String) (name : String) :
    (t.partitionParams params).find? name = (params.find? name).or
      ((t.partitions.filterMap fun p => p.declared.value.map fun v => (p.name, v)).lookup name) := by
  have hkeys : ((t.partitions.filterMap fun p =>
      p.declared.value.map fun v => (p.name, v)).map Prod.fst).Nodup := by
    refine ht.partitions_nodup.sublist ?_
    rw [List.map_filterMap]
    induction t.partitions with
    | nil => exact .slnil
    | cons q rest ih =>
      rw [List.filterMap_cons]
      cases q.declared.value with
      | none => exact ih.cons _
      | some v => exact ih.cons_cons _
  rw [partitionParams, Dict.find?_union, Dict.find?_ofList hkeys]

/-- A partition is filled in with its parameter, or else with its own value. -/
theorem WellBound.partitionParams_find? {p : BoundColumn} (hp : p ∈ t.partitions)
    (params : Dict String) :
    (t.partitionParams params).find? p.name = (params.find? p.name).or p.declared.value := by
  rw [ht.partitionParams_lookup, lookup_filterMap (·.name) (·.declared.value) ht.partitions_nodup p hp]

/-- The comparison of a partition whose name holds no braces. -/
theorem WellBound.comparison_eq {p : BoundColumn} (hp : p ∈ t.partitions) (hname : BraceFree p.name)
    (params : Dict String) : t.comparison params p = p.quotedName ++ " = " ++
      filledSlot p.name ((params.find? p.name).or p.declared.value) := by
  have hquoted : p.quotedName = t.vocabulary.columnQuote.quote p.name :=
    ht.quotedName (List.mem_of_mem_filter hp)
  have hplain : '\x7b' ∉ (p.quotedName ++ " = ").toList := by
    rw [String.toList_append, List.mem_append, not_or, hquoted]
    exact ⟨QuoteStyle.quote_plain _ hname, by decide⟩
  rw [comparison, Template.substitute_append hplain, Template.substitute_slot hname,
    ht.partitionParams_find? hp]

/-- Where no name of a partition holds a brace, a scope equates a name with a value when the name is that
of a partition which it compares, and the slot of the name is filled with the value; or else the scope
asks for this equality itself. -/
theorem WellBound.equates_braceFree (hnames : ∀ q ∈ t.partitions, BraceFree q.name) (scope : Scope)
    (name value : String) : t.Equates scope name value ↔
      (∃ q ∈ t.partitions, q.name = name ∧ q.name ∉ scope.ignored ∧
        filledSlot q.name ((scope.params.find? q.name).or q.declared.value) = value) ∨
      t.vocabulary.quoteColumn name ++ " = " ++ value ∈ t.furtherConditions scope := by
  rw [equates_iff]
  refine or_congr_left ?_
  constructor
  · rintro ⟨q, hq, hkept, htext⟩
    rw [ht.comparison_eq hq (hnames q hq), ht.quotedName (List.mem_of_mem_filter hq)] at htext
    obtain ⟨hname, hvalue⟩ := QuoteStyle.equality_inj _ htext
    exact ⟨q, hq, hname, hkept, hvalue⟩
  · rintro ⟨q, hq, rfl, hkept, rfl⟩
    refine ⟨q, hq, hkept, ?_⟩
    rw [ht.comparison_eq hq (hnames q hq), ht.quotedName (List.mem_of_mem_filter hq)]

end WellBound

end Table

end Warehouse
