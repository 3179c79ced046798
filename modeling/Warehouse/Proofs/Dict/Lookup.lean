import Mathlib.Data.List.Nodup
import Warehouse.Dict

/-!
What is found in a map that was put together from others. The keys of a map are distinct, so a key has
one entry in it, and of two maps in one the second is asked first.
-/

namespace Warehouse

section Lookup

variable {α β : Type}

theorem lookup_eq_none {k : String} {l : List (String × α)} :
    l.lookup k = none ↔ k ∉ l.map Prod.fst := by
  rw [List.lookup_eq_none_iff, List.mem_map, not_exists]
  refine forall_congr' fun e => ?_
  rw [bne_iff_ne, not_and]
  exact forall_congr' fun _ => ne_comm

/-- Where the keys are distinct, a key is found with the value of its entry. -/
theorem lookup_eq_some {k : String} {v : α} : ∀ {l : List (String × α)}, (l.map Prod.fst).Nodup →
    (l.lookup k = some v ↔ (k, v) ∈ l)
  | [], _ => by simp
  | (a, w) :: rest, hl => by
    obtain ⟨ha, hrest⟩ := List.nodup_cons.1 hl
    rw [List.lookup_cons, List.mem_cons, Prod.mk.injEq]
    by_cases hk : k = a
    · subst hk
      have habsent : (k, v) ∉ rest := fun h => ha (List.mem_map.2 ⟨_, h, rfl⟩)
      simp [habsent, eq_comm]
    · rw [beq_eq_false_iff_ne.2 hk]
      exact (lookup_eq_some hrest).trans ⟨Or.inr, fun h => h.resolve_left fun h => hk h.1⟩

/-- The entries of the elements that have a value, where the elements have distinct keys. -/
theorem lookup_filterMap (key : β → String) (val : β → Option α) : ∀ {l : List β},
    (l.map key).Nodup → ∀ x ∈ l,
      (l.filterMap fun y => (val y).map fun v => (key y, v)).lookup (key x) = val x
  | y :: rest, hl, x, hx => by
    obtain ⟨hy, hrest⟩ := List.nodup_cons.1 hl
    have hkeys : ∀ k ∉ rest.map key,
        (rest.filterMap fun y => (val y).map fun v => (key y, v)).lookup k = none := by
      intro k hk
      rw [lookup_eq_none, List.mem_map]
      rintro ⟨e, he, rfl⟩
      obtain ⟨z, hz, hze⟩ := List.mem_filterMap.1 he
      obtain ⟨v, _, rfl⟩ := Option.map_eq_some_iff.1 hze
      exact hk (List.mem_map_of_mem hz)
    rw [List.filterMap_cons]
    rcases List.mem_cons.1 hx with rfl | hx
    · cases hv : val x with
      | none => exact hkeys _ hy
      | some v => simp
    · have hne : key x ≠ key y := fun h => hy (h ▸ List.mem_map_of_mem hx)
      cases hv : val y with
      | none => exact lookup_filterMap key val hrest x hx
      | some v =>
        have := lookup_filterMap key val hrest x hx
        simpa [List.lookup_cons, beq_eq_false_iff_ne.2 hne] using this

end Lookup

namespace Dict

variable {α : Type}

theorem keys_nodup (d : Dict α) : (d.entries.map Prod.fst).Nodup := by
  refine (List.pairwise_map.2 d.sorted).imp ?_
  rintro a b hab rfl
  exact String.lt_irrefl a hab

theorem find?_eq_some {d : Dict α} {k : String} {v : α} :
    d.find? k = some v ↔ (k, v) ∈ d.entries :=
  lookup_eq_some d.keys_nodup

theorem contains_iff {d : Dict α} {k : String} : d.contains k = true ↔ k ∈ d.keys := by
  rw [contains, Option.isSome_iff_ne_none, ne_eq, find?, lookup_eq_none, not_not, keys]

theorem lookup_insertEntry (key : String) (value : α) (k : String) : ∀ l : List (String × α),
    (insertEntry key value l).lookup k = if k = key then some value else l.lookup k
  | [] => by
    rw [insertEntry, List.lookup_cons]
    split <;> simp_all
  | (a, w) :: rest => by
    have ih := lookup_insertEntry key value k rest
    rw [insertEntry]
    split
    · rw [List.lookup_cons]
      split <;> simp_all
    · split
      · next hgt =>
        rw [List.lookup_cons, List.lookup_cons, ih]
        by_cases hk : k = a
        · have hne : k ≠ key := by
            rintro rfl
            exact String.lt_irrefl k (hk ▸ hgt)
          simp [hk ▸ hne, hk]
        · rw [beq_eq_false_iff_ne.2 hk]
      · next hnlt hngt =>
        have heq : a = key := String.le_antisymm (String.not_lt.1 hnlt) (String.not_lt.1 hngt)
        rw [List.lookup_cons, List.lookup_cons, heq]
        split <;> simp_all

theorem find?_insert (d : Dict α) (key : String) (value : α) (k : String) :
    (d.insert key value).find? k = if k = key then some value else d.find? k :=
  lookup_insertEntry key value k d.entries

/-- What is found after entries with distinct keys have been put in one after the other. -/
theorem find?_foldl_insert {l : List (String × α)} (hl : (l.map Prod.fst).Nodup) (d : Dict α)
    (k : String) : (l.foldl (fun d e => d.insert e.1 e.2) d).find? k = (l.lookup k).or (d.find? k) := by
  induction l generalizing d with
  | nil => rfl
  | cons e rest ih =>
    obtain ⟨he, hrest⟩ := List.nodup_cons.1 hl
    rw [List.foldl_cons, ih hrest, find?_insert, List.lookup_cons]
    by_cases hk : k = e.1
    · rw [if_pos hk, beq_iff_eq.2 hk, lookup_eq_none.2 (hk ▸ he)]
      rfl
    · rw [if_neg hk, beq_eq_false_iff_ne.2 hk]

theorem find?_ofList {l : List (String × α)} (hl : (l.map Prod.fst).Nodup) (k : String) :
    (ofList l).find? k = l.lookup k := by
  rw [ofList, find?_foldl_insert hl]
  exact Option.or_none

theorem find?_union (d other : Dict α) (k : String) :
    (d.union other).find? k = (other.find? k).or (d.find? k) :=
  find?_foldl_insert other.keys_nodup d k

end Dict

end Warehouse
