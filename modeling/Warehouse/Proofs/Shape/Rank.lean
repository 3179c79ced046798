import Mathlib.Data.List.Sort
import Warehouse.Proofs.Outcome
import Warehouse.Shape

/-!
Columns in the order of their ranks. Where the ranks already grow along the columns, ordering by rank
changes nothing, so inherited columns that come before all own ones stay in front of them.
-/

namespace Warehouse

/-- Whether ranks grow along the columns and all lie between two numbers, the second excluded. -/
structure Ranked (lo hi : Nat) (columns : List Column) : Prop where
  grows : columns.Pairwise fun a b => a.rank ≤ b.rank
  within : ∀ c ∈ columns, lo ≤ c.rank.toNat ∧ c.rank.toNat < hi

namespace Ranked

variable {lo mid hi : Nat} {l k : List Column}

theorem nil : Ranked lo hi [] := ⟨.nil, by simp⟩

theorem mono (h : Ranked lo mid l) {lo' : Nat} (hlo : lo' ≤ lo) (hhi : mid ≤ hi) :
    Ranked lo' hi l := by
  refine ⟨h.grows, fun c hc => ?_⟩
  obtain ⟨h₁, h₂⟩ := h.within c hc
  omega

theorem filter (h : Ranked lo hi l) (test : Column → Bool) : Ranked lo hi (l.filter test) :=
  ⟨h.grows.filter test, fun c hc => h.within c (List.mem_of_mem_filter hc)⟩

/-- Columns whose ranks begin where those of others end can follow them. -/
theorem append (hl : Ranked lo mid l) (hk : Ranked mid hi k) (h₁ : lo ≤ mid) (h₂ : mid ≤ hi) :
    Ranked lo hi (l ++ k) := by
  refine ⟨List.pairwise_append.2 ⟨hl.grows, hk.grows, fun a ha b hb => ?_⟩, fun c hc => ?_⟩
  · have hlt := (hl.within a ha).2
    have hle := (hk.within b hb).1
    exact UInt64.le_iff_toNat_le.2 (by omega)
  · rcases List.mem_append.1 hc with hc | hc
    · have := hl.within c hc
      omega
    · have := hk.within c hc
      omega

/-- One column with a key spans just the number that it is. -/
theorem singleton {c : Column} {key : UInt64} {n : Nat} (h : key.toNat = n) :
    Ranked n (n + 1) [{ c with orderingKey := some key }] := by
  refine ⟨List.pairwise_singleton _ _, fun e he => ?_⟩
  obtain rfl := List.mem_singleton.1 he
  exact ⟨h.ge, Nat.lt_succ_of_le h.le⟩

end Ranked

theorem byRank_of_pairwise {l : List Column} (h : l.Pairwise fun a b => a.rank ≤ b.rank) :
    byRank l = l :=
  List.mergeSort_of_pairwise (by simpa using h)

theorem rank_le_trans (a b c : Column) (hab : decide (a.rank ≤ b.rank) = true)
    (hbc : decide (b.rank ≤ c.rank) = true) : decide (a.rank ≤ c.rank) = true :=
  decide_eq_true (UInt64.le_trans (of_decide_eq_true hab) (of_decide_eq_true hbc))

theorem rank_le_total (a b : Column) :
    (decide (a.rank ≤ b.rank) || decide (b.rank ≤ a.rank)) = true := by
  simpa using UInt64.le_total a.rank b.rank

theorem byRank_pairwise (l : List Column) : (byRank l).Pairwise fun a b => a.rank ≤ b.rank :=
  (List.pairwise_mergeSort rank_le_trans rank_le_total l).imp of_decide_eq_true

theorem byRank_idem (l : List Column) : byRank (byRank l) = byRank l :=
  byRank_of_pairwise (byRank_pairwise l)

/-! ### Keys from a sequence -/

namespace Sequence

/-- Whether the sequence has handed out so many numbers. -/
def At (s : Sequence) (n : Nat) : Prop := s.next = UInt64.ofNat n

theorem At.toNat {s : Sequence} {n : Nat} (h : s.At n) (hn : n < UInt64.size) : s.next.toNat = n := by
  rw [h, UInt64.toNat_ofNat_of_lt' hn]

theorem At.next {s : Sequence} {n : Nat} (h : s.At n) : Sequence.At ⟨s.next + 1⟩ (n + 1) := by
  rw [At, h, UInt64.ofNat_add]
  rfl

/-- A column without a key gets the next number, whose rank is how many there were before it. -/
theorem At.stamp {s : Sequence} {n : Nat} (h : s.At n) (hn : n < UInt64.size) {c : Column}
    (hc : c.orderingKey = none) :
    ∃ key, s.stamp c = ({ c with orderingKey := some key }, ⟨s.next + 1⟩) ∧
      Sequence.At ⟨s.next + 1⟩ (n + 1) ∧ key.toNat = n :=
  ⟨s.next, by rw [Sequence.stamp, hc], h.next, h.toNat hn⟩

/-- A column that has a key is given back as it is. -/
theorem stamp_some {c : Column} (hc : c.orderingKey ≠ none) (s : Sequence) : s.stamp c = (c, s) := by
  obtain ⟨key, hkey⟩ := Option.ne_none_iff_exists'.1 hc
  rw [Sequence.stamp, hkey]

end Sequence

namespace Draft

/-- What is built from a draft: its columns by rank, and a prototype of all that it declares unless there
is nothing to it or it is abstract. -/
theorem build_ok {d : Draft} {s : Shape} (h : d.build = .ok s) :
    s = { name := d.name
          description := d.description
          namePrefix := d.namePrefix.getD ""
          columns := d.allColumns
          properties := d.properties
          policies := d.policies
          prototype :=
            if d.allColumns.isEmpty || d.isAbstract then none
            else some ⟨d.allColumns, d.properties, d.policies⟩ } := by
  rw [build] at h
  split at h
  · next hnone =>
    cases h
    rw [if_pos hnone]
  · next hsome =>
    obtain ⟨p, hp, h⟩ := Outcome.bind_eq_ok.1 h
    cases h
    rw [Prototype.create] at hp
    split at hp
    · cases hp
    · obtain ⟨_, _, hp⟩ := Outcome.bind_eq_ok.1 hp
      cases hp
      rw [if_neg hsome, allColumns, byRank_idem]

theorem build_concrete {d : Draft} {s : Shape} (h : d.build = .ok s) :
    s.prototype.isSome ↔ d.isAbstract = false ∧ s.columns ≠ [] := by
  obtain rfl := build_ok h
  split
  · next hnone =>
    have hcases : d.allColumns = [] ∨ d.isAbstract = true := by simpa using hnone
    rcases hcases with hempty | habstract
    · simp [hempty]
    · simp [habstract]
  · next hsome =>
    simpa [and_comm] using hsome

theorem build_prototype {d : Draft} {s : Shape} (h : d.build = .ok s) {p : Prototype}
    (hp : s.prototype = some p) : p = ⟨s.columns, s.properties, s.policies⟩ := by
  obtain rfl := build_ok h
  split at hp
  · cases hp
  · exact (Option.some.inj hp).symm

end Draft

end Warehouse
