import Mathlib.Data.List.Nodup
import Mathlib.Data.List.Perm.Basic
import Warehouse.Proofs.Outcome
import Warehouse.Shape

/-!
The names of a prototype. The check walks over the columns with the names it has seen, so what it lets
through has names, and no name twice; ordering by rank only moves columns around. The shape of a draft
takes its prototype from that check and from nothing else.
-/

namespace Warehouse

open Outcome (bind_eq_ok)

/-- Whether all columns have a name and no two have the same one. -/
structure WellNamed (columns : List Column) : Prop where
  named : ∀ c ∈ columns, c.name ≠ ""
  distinct : (columns.map (·.name)).Nodup

theorem byRank_perm (columns : List Column) : (byRank columns).Perm columns :=
  List.mergeSort_perm columns _

theorem WellNamed.perm {l l' : List Column} (h : WellNamed l) (hp : l'.Perm l) : WellNamed l' := by
  refine ⟨fun c hc => h.named c (hp.mem_iff.1 hc), ?_⟩
  exact ((hp.map (·.name)).nodup_iff).2 h.distinct

/-- Two lists of columns with the same names are named equally well. -/
theorem WellNamed.of_names {l l' : List Column} (h : WellNamed l)
    (hn : l'.map (·.name) = l.map (·.name)) : WellNamed l' := by
  refine ⟨fun c hc => ?_, hn ▸ h.distinct⟩
  have hmem : c.name ∈ l.map (·.name) := hn ▸ List.mem_map_of_mem hc
  obtain ⟨b, hb, hbc⟩ := List.mem_map.1 hmem
  rw [← hbc]
  exact h.named b hb

theorem WellNamed.sublist {l l' : List Column} (h : WellNamed l) (hs : l'.Sublist l) :
    WellNamed l' :=
  ⟨fun c hc => h.named c (hs.subset hc), h.distinct.sublist (hs.map _)⟩

/-- Columns can follow others that have none of their names. -/
theorem WellNamed.append {l k : List Column} (hl : WellNamed l) (hk : WellNamed k)
    (hnew : ∀ e ∈ l, e.name ∉ k.map (·.name)) : WellNamed (l ++ k) := by
  refine ⟨fun e he => ?_, ?_⟩
  · rcases List.mem_append.1 he with he | he
    · exact hl.named e he
    · exact hk.named e he
  · rw [List.map_append]
    refine List.nodup_append.2 ⟨hl.distinct, hk.distinct, ?_⟩
    rintro x hx _ hy rfl
    obtain ⟨e, he, rfl⟩ := List.mem_map.1 hx
    exact hnew e he hy

/-- A column with a name of its own can be added. -/
theorem WellNamed.concat {l : List Column} (h : WellNamed l) {c : Column} (hc : c.name ≠ "")
    (hnew : ∀ e ∈ l, e.name ≠ c.name) : WellNamed (l ++ [c]) := by
  refine h.append ⟨by simpa using hc, List.nodup_singleton _⟩ fun e he hmem => ?_
  exact hnew e he (List.mem_singleton.1 hmem)

theorem WellNamed.nil : WellNamed [] := ⟨by simp, by simp⟩

/-- Whether columns are well named and new can be told one column after the other. -/
theorem WellNamed.cons_new {c : Column} {rest : List Column} {seen : List String} :
    (WellNamed (c :: rest) ∧ ∀ d ∈ c :: rest, d.name ∉ seen) ↔
      c.name ≠ "" ∧ c.name ∉ seen ∧ WellNamed rest ∧ ∀ d ∈ rest, d.name ∉ c.name :: seen := by
  constructor
  · rintro ⟨⟨hnamed, hdistinct⟩, hnew⟩
    obtain ⟨hname, hnamed⟩ := List.forall_mem_cons.1 hnamed
    obtain ⟨hc, hdistinct⟩ := List.nodup_cons.1 hdistinct
    obtain ⟨hseen, hnew⟩ := List.forall_mem_cons.1 hnew
    refine ⟨hname, hseen, ⟨hnamed, hdistinct⟩, fun d hd hmem => ?_⟩
    rcases List.mem_cons.1 hmem with hmem | hmem
    · exact hc (List.mem_map.2 ⟨d, hd, hmem⟩)
    · exact hnew d hd hmem
  · rintro ⟨hname, hseen, ⟨hnamed, hdistinct⟩, hnew⟩
    refine ⟨⟨List.forall_mem_cons.2 ⟨hname, hnamed⟩, List.nodup_cons.2 ⟨fun hmem => ?_, hdistinct⟩⟩,
      List.forall_mem_cons.2 ⟨hseen, fun d hd => List.not_mem_of_not_mem_cons (hnew d hd)⟩⟩
    obtain ⟨d, hd, hdc⟩ := List.mem_map.1 hmem
    exact hnew d hd (hdc ▸ List.mem_cons_self)

namespace Prototype

/-- The columns that the check lets through are well named, and none has a name seen before. -/
theorem checkColumns_wellNamed : ∀ (columns : List Column) (seen : List String),
    checkColumns seen columns = .ok () →
      WellNamed columns ∧ ∀ c ∈ columns, c.name ∉ seen
  | [], _, _ => ⟨.nil, by simp⟩
  | c :: rest, seen, h => by
    rw [checkColumns] at h
    split at h
    · cases h
    · next hname =>
      split at h
      · cases h
      · next hseen =>
        obtain ⟨_, _, hrest⟩ := bind_eq_ok.1 h
        exact WellNamed.cons_new.2 ⟨hname, hseen, checkColumns_wellNamed rest (c.name :: seen) hrest⟩

theorem create_wellNamed {columns : List Column} {properties : List Property} {policies : Policies}
    {p : Prototype} (h : create columns properties policies = .ok p) : WellNamed p.columns := by
  rw [create] at h
  split at h
  · cases h
  · obtain ⟨_, hcheck, hp⟩ := bind_eq_ok.1 h
    cases hp
    exact (checkColumns_wellNamed columns [] hcheck).1.perm (byRank_perm columns)

end Prototype

namespace Draft

theorem allColumns_eq (d : Draft) : d.allColumns =
    byRank ((d.inherited.filter fun c => c.name ∉ d.columns.map (·.name)) ++ d.columns) := by
  have hfilter : (fun c : Column => !(d.columns.map (·.name)).contains c.name) =
      fun c => decide (c.name ∉ d.columns.map (·.name)) := by
    funext c
    rw [List.contains_eq_mem, decide_not]
  rw [allColumns, hfilter]

theorem allColumns_perm (d : Draft) : d.allColumns.Perm
    ((d.inherited.filter fun c => c.name ∉ d.columns.map (·.name)) ++ d.columns) := by
  rw [allColumns_eq]
  exact byRank_perm _

theorem mem_allColumns {d : Draft} {c : Column} : c ∈ d.allColumns ↔
    (c ∈ d.inherited ∧ c.name ∉ d.columns.map (·.name)) ∨ c ∈ d.columns := by
  rw [d.allColumns_perm.mem_iff, List.mem_append, List.mem_filter, decide_eq_true_iff]

/-- A column that is declared again counts once. -/
theorem allColumns_wellNamed {d : Draft} (hinherited : WellNamed d.inherited)
    (hown : WellNamed d.columns) : WellNamed d.allColumns := by
  refine WellNamed.perm ?_ d.allColumns_perm
  refine (hinherited.sublist List.filter_sublist).append hown fun c hc => ?_
  exact of_decide_eq_true (List.mem_filter.1 hc).2

end Draft

/-- Whether the shape is one that a draft was built into. -/
def Shape.Declared (s : Shape) : Prop := ∃ d : Draft, d.build = .ok s

/-- A prototype of a declared shape is one that was checked. -/
theorem Shape.Declared.exists_create {s : Shape} (h : s.Declared) {p : Prototype}
    (hp : s.prototype = some p) :
    ∃ columns properties policies, Prototype.create columns properties policies = .ok p := by
  obtain ⟨d, hd⟩ := h
  rw [Draft.build] at hd
  split at hd
  · cases hd
    cases hp
  · obtain ⟨q, hq, hs⟩ := bind_eq_ok.1 hd
    cases hs
    cases hp
    exact ⟨_, _, _, hq⟩

theorem Shape.Declared.wellNamed {s : Shape} (h : s.Declared) {p : Prototype}
    (hp : s.prototype = some p) : WellNamed p.columns := by
  obtain ⟨_, _, _, hcreate⟩ := h.exists_create hp
  exact Prototype.create_wellNamed hcreate

end Warehouse
