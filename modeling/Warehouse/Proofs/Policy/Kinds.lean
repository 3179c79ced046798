import Warehouse.Policy

/-!
Policies by kind. Declaring a policy settles its kind and no other, and policies that are taken over settle
only the kinds that were open, so a table can take them over before or after it declares its own.
-/

namespace Warehouse.Policies

theorem find?_insert (ps : Policies) (p : Policy) (kind : PolicyKind) :
    (ps.insert p).find? kind = if p.kind = kind then some p else ps.find? kind := by
  cases p <;> cases kind <;> rfl

/-- Of policies that are declared one after the other, the last of a kind counts. -/
theorem find?_foldl_insert (declared : List Policy) (kind : PolicyKind) : ∀ ps : Policies,
    (declared.foldl insert ps).find? kind =
      (declared.filter (·.kind = kind)).getLast?.or (ps.find? kind) := by
  induction declared with
  | nil => intro ps; rfl
  | cons p rest ih =>
    intro ps
    rw [List.foldl_cons, ih, find?_insert, List.filter_cons]
    by_cases h : p.kind = kind
    · simp only [h, if_true, decide_true]
      rw [List.getLast?_cons]
      cases (rest.filter fun q => decide (q.kind = kind)).getLast? <;> rfl
    · simp only [h, if_false, decide_false]
      rfl

theorem find?_orElse (ps others : Policies) (kind : PolicyKind) :
    (ps.orElse others).find? kind = (ps.find? kind).or (others.find? kind) := by
  cases kind with
  | partitionRetention => exact Option.map_or
  | partitionAnonymisation => exact Option.map_or
  | manualAnonymisation =>
    rw [find?, find?, find?, orElse]
    cases ps.manual <;> rfl

theorem orElse_insert (ps others : Policies) (p : Policy) :
    (ps.orElse others).insert p = (ps.insert p).orElse others := by
  cases p <;> rfl

end Warehouse.Policies
