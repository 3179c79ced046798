import Warehouse.Instance
import Warehouse.Proofs.Dict.Lookup
import Warehouse.Proofs.Prototype.Names

/-!
Values given to the columns of an instance. Giving a value changes one element of a list, found by its
name; where the names are distinct, this is the same as changing the element of that name wherever it
stands. Names and all else that a declaration says stay as they are.
-/

namespace Warehouse

open Outcome (bind_eq_ok)

section UpdateFirst

variable {α β : Type} {test : α → Bool} {change : α → α}

/-- What the change leaves alone is the same all over the list. -/
theorem updateFirst?_map {l l' : List α} (h : updateFirst? test change l = some l') (g : α → β)
    (hg : ∀ x, g (change x) = g x) : l'.map g = l.map g := by
  induction l generalizing l' with
  | nil => simp [updateFirst?] at h
  | cons x rest ih =>
    rw [updateFirst?] at h
    split at h
    · cases h
      rw [List.map_cons, List.map_cons, hg]
    · obtain ⟨r, hr, rfl⟩ := Option.map_eq_some_iff.1 h
      rw [List.map_cons, List.map_cons, ih hr]

/-- What holds of all elements and survives the change holds of all elements afterwards. -/
theorem updateFirst?_forall {l l' : List α} (h : updateFirst? test change l = some l')
    {P : α → Prop} (hP : ∀ x, test x = true → P x → P (change x)) (hl : ∀ x ∈ l, P x) :
    ∀ x ∈ l', P x := by
  induction l generalizing l' with
  | nil => simp [updateFirst?] at h
  | cons x rest ih =>
    obtain ⟨hx, hrest⟩ := List.forall_mem_cons.1 hl
    rw [updateFirst?] at h
    split at h
    · next htest =>
      cases h
      exact List.forall_mem_cons.2 ⟨hP x htest hx, hrest⟩
    · obtain ⟨r, hr, rfl⟩ := Option.map_eq_some_iff.1 h
      exact List.forall_mem_cons.2 ⟨hx, ih hr hrest⟩

/-- A change of the first element that passes a test leaves what is kept as it was, if that element is not. -/
theorem updateFirst?_filter {l l' : List α} (h : updateFirst? test change l = some l') {keep : α → Bool}
    (hchange : ∀ x, keep (change x) = keep x) (hl : ∀ x, l.find? test = some x → keep x = false) : l'.filter keep = l.filter keep := by
  induction l generalizing l' with
  | nil => simp [updateFirst?] at h
  | cons x rest ih =>
    rw [updateFirst?] at h
    rw [List.find?_cons] at hl
    split at h
    · next htest =>
      cases h
      simp [htest] at hl
      simp [hchange, hl]
    · next htest =>
      obtain ⟨r, hr, rfl⟩ := Option.map_eq_some_iff.1 h
      simp only [htest] at hl
      rw [List.filter_cons, List.filter_cons, ih hr hl]

/-- Where no two elements have the same key, the first element of a key is the only one. -/
theorem updateFirst?_getD_of_nodup [DecidableEq β] {key : α → β} {k : β} {l : List α}
    (hl : (l.map key).Nodup) : (updateFirst? (key · == k) change l).getD l =
      l.map fun x => if key x = k then change x else x := by
  induction l with
  | nil => rfl
  | cons x rest ih =>
    obtain ⟨hx, hrest⟩ := List.nodup_cons.1 hl
    rw [updateFirst?, List.map_cons]
    by_cases hk : key x = k
    · have hfixed : rest.map (fun y => if key y = k then change y else y) = rest := by
        refine (List.map_congr_left fun y hy => if_neg fun hyk => hx ?_).trans rest.map_id
        rw [hk, ← hyk]
        exact List.mem_map_of_mem hy
      rw [if_pos (beq_iff_eq.2 hk), if_pos hk, Option.getD_some, hfixed]
    · rw [if_neg (by simpa using hk), if_neg hk, ← ih hrest]
      cases updateFirst? (key · == k) change rest <;> rfl

end UpdateFirst

theorem Shape.requirePrototype_eq_ok {s : Shape} {p : Prototype} :
    s.requirePrototype = .ok p ↔ s.prototype = some p := by
  rw [requirePrototype]
  cases s.prototype <;> simp

namespace Instance

section Seeds

variable {β : Type} {g : Column → β} (hg : ∀ (c : Column) value, g { c with value } = g c)
include hg

/-- Initial values leave alone what does not hang on values. -/
theorem seed_map (columns : List Column) (entry : String × String) :
    (seed columns entry).map g = columns.map g := by
  rw [seed]
  cases h : updateFirst? (·.name == entry.1) (fun c => { c with value := some entry.2 }) columns with
  | none => rfl
  | some l => exact updateFirst?_map h g fun c => hg c _

theorem seeds_map (entries : List (String × String)) : ∀ columns : List Column,
    (entries.foldl seed columns).map g = columns.map g := by
  induction entries with
  | nil => intro columns; rfl
  | cons e rest ih => intro columns; rw [List.foldl_cons, ih, seed_map hg]

end Seeds

theorem seed_names (columns : List Column) (entry : String × String) :
    (seed columns entry).map (·.name) = columns.map (·.name) :=
  seed_map (fun _ _ => rfl) columns entry

theorem seeds_names (entries : List (String × String)) (columns : List Column) :
    (entries.foldl seed columns).map (·.name) = columns.map (·.name) :=
  seeds_map (fun _ _ => rfl) entries columns

/-- A value for a name goes to the column of that name, and a value for any other name goes nowhere. -/
theorem seed_eq {columns : List Column} (hc : (columns.map (·.name)).Nodup)
    (entry : String × String) : seed columns entry =
      columns.map fun c => if c.name = entry.1 then { c with value := some entry.2 } else c := by
  rw [seed]
  exact updateFirst?_getD_of_nodup hc

/-- With distinct names on both sides, each column has the value given for it, or else its own. -/
theorem seeds_eq {entries : List (String × String)} (he : (entries.map Prod.fst).Nodup)
    {columns : List Column} (hc : (columns.map (·.name)).Nodup) : entries.foldl seed columns =
      columns.map fun c => { c with value := (entries.lookup c.name).or c.value } := by
  induction entries generalizing columns with
  | nil =>
    symm
    refine List.map_id'' ?_ columns
    rintro ⟨declared, kind⟩
    rfl
  | cons e rest ih =>
    obtain ⟨hnew, hrest⟩ := List.nodup_cons.1 he
    have hseeded : ((seed columns e).map (·.name)).Nodup := seed_names columns e ▸ hc
    rw [List.foldl_cons, ih hrest hseeded, seed_eq hc, List.map_map]
    refine List.map_congr_left fun c _ => ?_
    rw [Function.comp_apply, List.lookup_cons]
    by_cases hn : c.name = e.1
    · rw [if_pos hn, beq_iff_eq.2 hn]
      have habsent : rest.lookup c.name = none := lookup_eq_none.2 (hn ▸ hnew)
      simp only [habsent, Option.none_or, Option.some_or]
    · rw [if_neg hn, beq_eq_false_iff_ne.2 hn]

theorem create_ok {shape : Shape} {schema : String} {values : List (String × String)} {i : Instance}
    (h : create shape schema values = .ok i) :
    ∃ p, shape.prototype = some p ∧ i.shape = shape ∧ i.schema = schema ∧
      i.columns = values.foldl seed p.columns := by
  obtain ⟨p, hp, hi⟩ := bind_eq_ok.1 h
  cases hi
  exact ⟨p, Shape.requirePrototype_eq_ok.1 hp, rfl, rfl, rfl⟩

end Instance

end Warehouse
