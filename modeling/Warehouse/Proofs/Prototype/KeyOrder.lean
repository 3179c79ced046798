import Mathlib.Data.List.Permutation
import Warehouse.Proofs.Prototype.Rows
import Warehouse.Proofs.Shape.Rank

/-!
What makes a prototype, and the order of its columns. There must be columns, they must be well named, and so
must the fields of each row in them. A prototype has the columns that it is made of, sorted by their keys;
columns of one key stay in the order in which they were given, which leaves no choice. Main statement: given
columns make a prototype exactly in this case, and exactly this one.
-/

namespace Warehouse

/-- The number that a column is sorted by: its ordering key, or the largest number of 64 bits if it has
none. -/
def Column.sortNumber (c : Column) : Nat := (c.orderingKey.map UInt64.toNat).getD (UInt64.size - 1)

theorem Column.rank_toNat (c : Column) : c.rank.toNat = c.sortNumber := by
  rw [rank, sortNumber]
  cases c.orderingKey <;> rfl

/-- Whether columns are the given ones in the order of their keys: none is lost, new or changed, the numbers
that they are sorted by never fall, and those of one number stand as they were given. -/
structure InKeyOrder (given columns : List Column) : Prop where
  same : columns.Perm given
  grows : columns.Pairwise fun a b => a.sortNumber ≤ b.sortNumber
  stable : ∀ n, columns.filter (·.sortNumber = n) = given.filter (·.sortNumber = n)

/-! ### One order -/

/-- Columns of one number that were given in some order are in this order after sorting. -/
theorem byRank_filter (l : List Column) (n : Nat) :
    (byRank l).filter (·.sortNumber = n) = l.filter (·.sortNumber = n) := by
  have hequal : (l.filter (·.sortNumber = n)).Pairwise fun a b => decide (a.rank ≤ b.rank) = true := by
    refine List.pairwise_of_forall_mem_list fun a ha b hb => decide_eq_true ?_
    have ha : a.sortNumber = n := of_decide_eq_true (List.mem_filter.1 ha).2
    have hb : b.sortNumber = n := of_decide_eq_true (List.mem_filter.1 hb).2
    rw [UInt64.le_iff_toNat_le, a.rank_toNat, b.rank_toNat, ha, hb]
  have hsublist : (l.filter (·.sortNumber = n)).Sublist (byRank l) :=
    List.sublist_mergeSort rank_le_trans rank_le_total hequal List.filter_sublist
  have hkept := hsublist.filter (·.sortNumber = n)
  rw [List.filter_filter] at hkept
  simp only [Bool.and_self] at hkept
  exact (hkept.eq_of_length ((byRank_perm l).filter _).length_eq.symm).symm

theorem byRank_inKeyOrder (l : List Column) : InKeyOrder l (byRank l) := by
  refine ⟨byRank_perm l, (byRank_pairwise l).imp fun h => ?_, byRank_filter l⟩
  rw [← Column.rank_toNat, ← Column.rank_toNat]
  exact UInt64.le_iff_toNat_le.1 h

theorem mem_of_filter_eq {l k : List Column}
    (h : ∀ n, l.filter (·.sortNumber = n) = k.filter (·.sortNumber = n)) {c : Column} (hc : c ∈ k) :
    c ∈ l := by
  have hmem : c ∈ k.filter (·.sortNumber = c.sortNumber) :=
    List.mem_filter.2 ⟨hc, decide_eq_true rfl⟩
  rw [← h] at hmem
  exact List.mem_of_mem_filter hmem

/-- Sorted columns are told by what there is of each number, in order. -/
theorem eq_of_filter_eq : ∀ {l k : List Column},
    (l.Pairwise fun a b => a.sortNumber ≤ b.sortNumber) →
    (k.Pairwise fun a b => a.sortNumber ≤ b.sortNumber) →
    (∀ n, l.filter (·.sortNumber = n) = k.filter (·.sortNumber = n)) → l = k
  | [], [], _, _, _ => rfl
  | [], b :: k, _, _, h => absurd (mem_of_filter_eq h List.mem_cons_self) List.not_mem_nil
  | a :: l, [], _, _, h =>
    absurd (mem_of_filter_eq (fun n => (h n).symm) List.mem_cons_self) List.not_mem_nil
  | a :: l, b :: k, hl, hk, h => by
    obtain ⟨ha, hl'⟩ := List.pairwise_cons.1 hl
    obtain ⟨hb, hk'⟩ := List.pairwise_cons.1 hk
    -- each head is among the other columns, so neither has a larger number
    have hab : a.sortNumber ≤ b.sortNumber := by
      rcases List.mem_cons.1 (mem_of_filter_eq h List.mem_cons_self) with rfl | hmem
      · exact Nat.le_refl _
      · exact ha b hmem
    have hba : b.sortNumber ≤ a.sortNumber := by
      rcases List.mem_cons.1 (mem_of_filter_eq (fun n => (h n).symm) List.mem_cons_self) with rfl | hmem
      · exact Nat.le_refl _
      · exact hb a hmem
    have hequal : a.sortNumber = b.sortNumber := Nat.le_antisymm hab hba
    have hhead : a = b := by
      have hfirst := h a.sortNumber
      simp only [List.filter_cons, hequal, decide_true, if_true] at hfirst
      exact (List.cons.inj hfirst).1
    have htail : l = k := eq_of_filter_eq hl' hk' fun n => by
      have hn := h n
      rw [← hhead, List.filter_cons, List.filter_cons] at hn
      split at hn
      · exact (List.cons.inj hn).2
      · exact hn
    rw [hhead, htail]

/-- There is one way to put columns in the order of their keys. -/
theorem InKeyOrder.unique {given l k : List Column} (hl : InKeyOrder given l)
    (hk : InKeyOrder given k) : k = l :=
  eq_of_filter_eq hk.grows hl.grows fun n => (hk.stable n).trans (hl.stable n).symm

/-! ### What is accepted -/

/-- Whether columns can make a prototype: there are some, they have names of their own, and so have the fields
of each row in them, at any depth. -/
structure Prototype.Acceptable (columns : List Column) : Prop where
  nonempty : columns ≠ []
  named : WellNamed columns
  rows : ∀ c ∈ columns, c.RowsNamed

namespace Prototype

variable {columns : List Column} {properties : List Property} {policies : Policies}

theorem checkColumns_eq_ok :
    checkColumns [] columns = .ok () ↔ WellNamed columns ∧ ∀ c ∈ columns, c.RowsNamed := by
  have hrows : WellNamed columns →
      (checkColumns [] columns = .ok () ↔ ∀ c ∈ columns, c.RowsNamed) := by
    intro hnamed
    rw [← firstRowFault?_eq_none, ← error?_checkColumns hnamed fun _ _ => List.not_mem_nil,
      Outcome.error?_eq_none, Unique.exists_iff]
  constructor
  · intro h
    have hnamed := (checkColumns_wellNamed columns [] h).1
    exact ⟨hnamed, (hrows hnamed).1 h⟩
  · rintro ⟨hnamed, h⟩
    exact (hrows hnamed).2 h

theorem create_eq_ok {p : Prototype} : create columns properties policies = .ok p ↔
    Acceptable columns ∧ p = ⟨byRank columns, properties, policies⟩ := by
  rw [create]
  split
  · next hempty =>
    have hnot : ¬ Acceptable columns := fun h => h.nonempty (List.isEmpty_iff.1 hempty)
    exact iff_of_false (fun h => by cases h) fun h => hnot h.1
  · next hnonempty =>
    have hacceptable : Acceptable columns ↔ checkColumns [] columns = .ok () := by
      rw [checkColumns_eq_ok]
      exact ⟨fun h => ⟨h.named, h.rows⟩, fun h => ⟨by simpa using hnonempty, h.1, h.2⟩⟩
    rw [Outcome.bind_eq_ok, hacceptable]
    constructor
    · rintro ⟨_, hcheck, hp⟩
      cases hp
      exact ⟨hcheck, rfl⟩
    · rintro ⟨hcheck, rfl⟩
      exact ⟨(), hcheck, rfl⟩

/-- Columns make a prototype exactly when they are acceptable, whatever properties and policies come with
them. It has these properties and policies and the same columns, in the one order that their keys give
them. -/
theorem created_iff_acceptable (columns : List Column) (properties : List Property)
    (policies : Policies) :
    ((∃ p, create columns properties policies = .ok p) ↔ Acceptable columns) ∧
    ∀ p, create columns properties policies = .ok p ↔ Acceptable columns ∧
      InKeyOrder columns p.columns ∧ p.properties = properties ∧ p.policies = policies := by
  refine ⟨?_, fun p => ?_⟩
  · simp only [create_eq_ok, exists_and_left, exists_eq, and_true]
  · rw [create_eq_ok, and_congr_right_iff]
    intro _
    constructor
    · rintro rfl
      exact ⟨byRank_inKeyOrder columns, rfl, rfl⟩
    · obtain ⟨sorted, _, _⟩ := p
      rintro ⟨hsorted, rfl, rfl⟩
      obtain rfl : sorted = byRank columns := (byRank_inKeyOrder columns).unique hsorted
      rfl

/-- Columns of answers. Two have the key 5; the one without a key goes with the one that has the largest. -/
def answerColumns : List Column :=
  [Column.scalar "note" .varchar,
    { Column.scalar "last" .date with orderingKey := some 0xFFFFFFFFFFFFFFFF },
    { Column.array "answers" (.row "" [.scalar "question" .varchar, .scalar "answer" .varchar]) with
      orderingKey := some 5 },
    { Column.scalar "id" .bigint with orderingKey := some 0 },
    { Column.scalar "total" .integer with orderingKey := some 5 }]

/-- The answers have a prototype, its columns by key and those of one key as they were given. -/
theorem answers_created : Acceptable answerColumns ∧
    ∃ p, create answerColumns [] .none = .ok p ∧ InKeyOrder answerColumns p.columns ∧
      p.columns.map (·.name) = ["id", "answers", "total", "note", "last"] := by
  obtain ⟨p, hp, hnames⟩ : ∃ p, create answerColumns [] .none = .ok p ∧
      p.columns.map (·.name) = ["id", "answers", "total", "note", "last"] := ⟨_, by cbv, by cbv⟩
  obtain ⟨haccepted, hcreated⟩ := created_iff_acceptable answerColumns [] .none
  exact ⟨haccepted.1 ⟨p, hp⟩, p, hp, ((hcreated p).1 hp).2.1, hnames⟩

end Prototype

end Warehouse
