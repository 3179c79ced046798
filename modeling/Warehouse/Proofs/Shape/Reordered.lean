import Warehouse.Proofs.Prototype.KeyOrder
import Warehouse.Proofs.Shape.Extending
import Warehouse.Statement.Create
import Warehouse.Statement.Query

/-!
Columns that have keys of their own can be declared in any order. Declaring such a column commutes with each
call that declares none, and sorting by distinct keys leaves nothing of the order in which columns came.
Main statement: whether the columns are accepted, the shape that is built and what its tables say are the same
for every order.
-/

namespace Warehouse

/-! ### Sorting by distinct keys -/

section Distinct

variable {columns permuted : List Column}

theorem sortNumber_nodup (hstamped : ∀ c ∈ columns, c.orderingKey ≠ none)
    (hdistinct : (columns.map (·.orderingKey)).Nodup) : (columns.map (·.sortNumber)).Nodup := by
  refine List.Nodup.map_on (fun a ha b hb hab => ?_) (List.Nodup.of_map _ hdistinct)
  refine List.inj_on_of_nodup_map hdistinct ha hb ?_
  obtain ⟨i, hi⟩ := Option.ne_none_iff_exists'.1 (hstamped a ha)
  obtain ⟨j, hj⟩ := Option.ne_none_iff_exists'.1 (hstamped b hb)
  rw [Column.sortNumber, Column.sortNumber, hi, hj] at hab
  rw [hi, hj, UInt64.toNat_inj.1 hab]

/-- Where no two columns have the same number, there is at most one of each, whatever their order. -/
theorem filter_of_perm (hperm : permuted.Perm columns) (hdistinct : (columns.map (·.sortNumber)).Nodup)
    (n : Nat) : permuted.filter (·.sortNumber = n) = columns.filter (·.sortNumber = n) := by
  have hkept := hperm.filter (·.sortNumber = n)
  have hsingle : (columns.filter (·.sortNumber = n)).Pairwise fun _ _ => False := by
    refine ((List.pairwise_map.1 hdistinct).filter _).imp_of_mem fun ha hb hne => hne ?_
    rw [of_decide_eq_true (List.mem_filter.1 ha).2, of_decide_eq_true (List.mem_filter.1 hb).2]
  generalize columns.filter (·.sortNumber = n) = kept at hkept hsingle
  match kept with
  | [] => exact List.perm_nil.1 hkept
  | [c] => exact List.perm_singleton.1 hkept
  | a :: b :: rest => exact absurd ((List.pairwise_cons.1 hsingle).1 b List.mem_cons_self) id

/-- Columns with distinct keys are sorted alike in any order, also among others. -/
theorem byRank_of_perm (hperm : permuted.Perm columns)
    (hdistinct : (columns.map (·.sortNumber)).Nodup) (front : List Column) :
    byRank (front ++ permuted) = byRank (front ++ columns) := by
  refine (byRank_inKeyOrder (front ++ columns)).unique ?_
  obtain ⟨same, grows, stable⟩ := byRank_inKeyOrder (front ++ permuted)
  refine ⟨same.trans (hperm.append_left front), grows, fun n => ?_⟩
  rw [stable, List.filter_append, List.filter_append, filter_of_perm hperm hdistinct]

theorem Prototype.Acceptable.perm (h : Acceptable columns) (hperm : permuted.Perm columns) :
    Acceptable permuted := by
  refine ⟨?_, h.named.perm hperm, fun c hc => h.rows c (hperm.mem_iff.1 hc)⟩
  rintro rfl
  exact h.nonempty hperm.nil_eq.symm

/-- A column stands in front of all columns of larger numbers. -/
theorem InKeyOrder.sublist {given : List Column} (h : InKeyOrder given columns) {a b : Column}
    (ha : a ∈ given) (hb : b ∈ given) (hab : a.sortNumber < b.sortNumber) :
    [a, b].Sublist columns := by
  obtain ⟨front, back, rfl⟩ := List.append_of_mem (h.same.mem_iff.2 ha)
  obtain ⟨_, _, hfront⟩ := List.pairwise_append.1 h.grows
  rcases List.mem_append.1 (h.same.mem_iff.2 hb) with hb | hb
  · have hle := hfront b hb a List.mem_cons_self
    omega
  · rcases List.mem_cons.1 hb with rfl | hb
    · omega
    · have hback : [b].Sublist back := List.singleton_sublist.2 hb
      exact (hback.cons_cons a).trans (List.sublist_append_right front _)

end Distinct

/-! ### Declaring columns apart from the rest -/

namespace Draft

/-- The draft with columns behind those that it has. -/
def addColumns (d : Draft) (columns : List Column) : Draft := { d with columns := d.columns ++ columns }

theorem addColumns_addColumns (d : Draft) (front back : List Column) :
    (d.addColumns front).addColumns back = d.addColumns (front ++ back) := by
  simp [addColumns]

/-- A call that declares no column does not look at the columns, and leaves the sequence as it is. -/
theorem perform_addColumns {call : DraftCall} (h : call.column? = none) (d : Draft) (s : Sequence)
    (columns : List Column) : (d.addColumns columns).perform s call =
      ((d.perform s call).1.addColumns columns, s) := by
  cases call with
  | column c | partition c => cases h
  | _ => rfl

theorem run_addColumns {calls : List DraftCall} (h : ∀ call ∈ calls, call.column? = none) (d : Draft)
    (s : Sequence) (columns : List Column) :
    (d.addColumns columns).run s calls = ((d.run s calls).1.addColumns columns, s) := by
  induction calls generalizing d with
  | nil => rfl
  | cons call calls ih =>
    obtain ⟨hcall, hcalls⟩ := List.forall_mem_cons.1 h
    have hsequence : (d.perform s call).2 = s := by rw [perform_sequence, hcall]; rfl
    rw [run_cons, perform_addColumns hcall, ih hcalls, run_cons, hsequence]

/-- A column with a key is added as it is, and takes no key from the sequence. -/
theorem perform_stamped {call : DraftCall} {c : Column} (h : call.column? = some c)
    (hc : c.orderingKey ≠ none) (d : Draft) (s : Sequence) :
    d.perform s call = (d.addColumns [c], s) := by
  have hdeclared : d.perform s call = d.column s c := by
    cases call <;> cases h <;> rfl
  rw [hdeclared, column, Sequence.stamp_some hc]
  rfl

/-- Where all columns have keys, calls do what those without columns do, and the columns come behind. -/
theorem run_stamped {calls : List DraftCall}
    (h : ∀ c ∈ calls.filterMap (·.column?), c.orderingKey ≠ none) (d : Draft) (s : Sequence) :
    d.run s calls = ((d.run s (calls.filter (·.column?.isNone))).1.addColumns
      (calls.filterMap (·.column?)), s) := by
  induction calls generalizing d with
  | nil => simp [addColumns]
  | cons call calls ih =>
    rw [run_cons]
    cases hc : call.column? with
    | none =>
      have hsequence : (d.perform s call).2 = s := by rw [perform_sequence, hc]; rfl
      rw [List.filterMap_cons_none hc] at h ⊢
      rw [List.filter_cons_of_pos (by rw [hc]; rfl), run_cons, hsequence, ih h]
    | some c =>
      rw [List.filterMap_cons_some hc] at h ⊢
      obtain ⟨hkey, h⟩ := List.forall_mem_cons.1 h
      have hothers : ∀ other ∈ calls.filter (·.column?.isNone), other.column? = none :=
        fun other hother => Option.isNone_iff_eq_none.1 (List.mem_filter.1 hother).2
      rw [List.filter_cons_of_neg (by rw [hc]; exact Bool.false_ne_true), perform_stamped hc hkey, ih h,
        run_addColumns hothers, addColumns_addColumns, List.singleton_append]

section Reordered

variable {columns permuted : List Column} (hperm : permuted.Perm columns)
  (hdistinct : (columns.map (·.sortNumber)).Nodup)
include hperm hdistinct

theorem allColumns_addColumns (d : Draft) :
    (d.addColumns permuted).allColumns = (d.addColumns columns).allColumns := by
  have hnames : ∀ name, name ∈ (d.columns ++ permuted).map (·.name) ↔
      name ∈ (d.columns ++ columns).map (·.name) :=
    fun name => ((hperm.append_left d.columns).map (·.name)).mem_iff
  rw [allColumns_eq, allColumns_eq]
  simp only [addColumns, hnames, ← List.append_assoc]
  exact byRank_of_perm hperm hdistinct _

/-- What is built does not hang on the order in which columns with keys were declared. -/
theorem build_addColumns (d : Draft) :
    (d.addColumns permuted).build = (d.addColumns columns).build := by
  have hcolumns := allColumns_addColumns hperm hdistinct d
  simp only [build, hcolumns]
  rfl

end Reordered

/-- The table that calls declare, in a schema and a dialect, with initial values. -/
def declareTable (name : String) (s : Sequence) (calls : List DraftCall) (schema : String)
    (values : List (String × String)) (d : Dialect) : Except Problem Table :=
  declare name s calls >>= fun shape => Instance.create shape schema values >>= fun i => Table.bind i d

end Draft

/-- Whether calls declare these columns, in this order, and are otherwise these. -/
structure Declaring (calls : List DraftCall) (columns : List Column) (rest : List DraftCall) : Prop where
  columns : calls.filterMap (·.column?) = columns
  rest : calls.filter (·.column?.isNone) = rest

namespace Draft

theorem declare_of_stamped {calls rest : List DraftCall} {columns : List Column}
    (h : Declaring calls columns rest) (hstamped : ∀ c ∈ columns, c.orderingKey ≠ none) (name : String)
    (s : Sequence) :
    declare name s calls = ((run { name } s rest).1.addColumns columns).build := by
  rw [declare, run_stamped (h.columns ▸ hstamped), h.columns, h.rest]

/-- Columns that have keys, no two the same, can be declared in any order. Taken directly, they make a
prototype in one order exactly when they make it in the other, and it is the same one. Declared call by call,
with whatever else is said in between, they give the same shape in both orders or fail in the same way; there
a column stands in front of those with larger keys, and the tables of the shape are created and selected from
by the same statements. -/
theorem declared_in_any_order {columns permuted : List Column}
    (hstamped : ∀ c ∈ columns, c.orderingKey ≠ none)
    (hdistinct : (columns.map (·.orderingKey)).Nodup) (hperm : permuted.Perm columns) :
    (∀ properties policies p, Prototype.create permuted properties policies = .ok p ↔
      Prototype.create columns properties policies = .ok p) ∧
    ∀ name s calls other rest, Declaring calls columns rest → Declaring other permuted rest →
      declare name s other = declare name s calls ∧
      (∀ shape, declare name s calls = .ok shape → ∀ a ∈ columns, ∀ b ∈ columns,
        a.sortNumber < b.sortNumber → [a, b].Sublist shape.columns) ∧
      ∀ schema values d creating selecting,
        (declareTable name s other schema values d).map
            (fun t => (t.createTable creating, t.selectText selecting)) =
          (declareTable name s calls schema values d).map
            (fun t => (t.createTable creating, t.selectText selecting)) := by
  have hnumbers := sortNumber_nodup hstamped hdistinct
  refine ⟨fun properties policies p => ?_, fun name s calls other rest hcalls hother => ?_⟩
  · have hacceptable : Prototype.Acceptable permuted ↔ Prototype.Acceptable columns :=
      ⟨fun h => h.perm hperm.symm, fun h => h.perm hperm⟩
    have hsorted : byRank permuted = byRank columns := byRank_of_perm hperm hnumbers []
    rw [Prototype.create_eq_ok, Prototype.create_eq_ok, hacceptable, hsorted]
  · have hshape : declare name s other = declare name s calls := by
      have hpermuted : ∀ c ∈ permuted, c.orderingKey ≠ none :=
        fun c hc => hstamped c (hperm.mem_iff.1 hc)
      rw [declare_of_stamped hother hpermuted, declare_of_stamped hcalls hstamped,
        build_addColumns hperm hnumbers]
    refine ⟨hshape, fun shape h a ha b hb hab => ?_, fun schema values d creating selecting => ?_⟩
    · rw [declare_of_stamped hcalls hstamped] at h
      rw [build_ok h, allColumns_eq]
      have hmem : ∀ c ∈ columns, ∀ front, c ∈ front ++ ((run { name } s rest).1.addColumns columns).columns :=
        fun c hc front => List.mem_append_right _ (List.mem_append_right _ hc)
      exact (byRank_inKeyOrder _).sublist (hmem a ha _) (hmem b hb _) hab
    · rw [declareTable, hshape, declareTable]

/-- Columns of reviews, each with its key. -/
def reviewColumns : List Column :=
  [{ Column.scalar "text" .varchar with orderingKey := some 12 },
    { Column.scalar "day" .date with orderingKey := some 30 },
    { Column.scalar "stars" .integer with orderingKey := some 4 }]

/-- Reviews extend pages and are kept for a week; the stars are declared last. -/
def reviewCalls : List DraftCall :=
  [.extend pageBase, .column { Column.scalar "text" .varchar with orderingKey := some 12 },
    .column { Column.scalar "day" .date with orderingKey := some 30 },
    .policy (.retention { daysAgo := 7 }),
    .column { Column.scalar "stars" .integer with orderingKey := some 4 }]

/-- The same reviews, with the stars declared first. -/
def reviewCallsFromStars : List DraftCall :=
  [.column { Column.scalar "stars" .integer with orderingKey := some 4 },
    .column { Column.scalar "day" .date with orderingKey := some 30 }, .extend pageBase,
    .column { Column.scalar "text" .varchar with orderingKey := some 12 },
    .policy (.retention { daysAgo := 7 })]

/-- In both orders the columns of reviews are those of pages, then the stars, the text and the day. -/
theorem reviews_in_any_order : (∀ c ∈ reviewColumns, c.orderingKey ≠ none) ∧
    (reviewColumns.map (·.orderingKey)).Nodup ∧ reviewColumns.reverse.Perm reviewColumns ∧
    ∃ rest, Declaring reviewCalls reviewColumns rest ∧
      Declaring reviewCallsFromStars reviewColumns.reverse rest ∧
      ∃ shape, declare "Reviews" {} reviewCalls = .ok shape ∧
        declare "Reviews" {} reviewCallsFromStars = .ok shape ∧
        shape.columns.map (·.name) = ["id", "created", "stars", "text", "day"] := by
  have hstamped : ∀ c ∈ reviewColumns, c.orderingKey ≠ none := by simp [reviewColumns]
  have hdistinct : (reviewColumns.map (·.orderingKey)).Nodup := by decide
  have hperm : reviewColumns.reverse.Perm reviewColumns := List.reverse_perm _
  have hcalls : Declaring reviewCalls reviewColumns
      [.extend pageBase, .policy (.retention { daysAgo := 7 })] := ⟨rfl, rfl⟩
  have hother : Declaring reviewCallsFromStars reviewColumns.reverse
      [.extend pageBase, .policy (.retention { daysAgo := 7 })] := ⟨rfl, rfl⟩
  obtain ⟨shape, hshape, hnames⟩ : ∃ shape, declare "Reviews" {} reviewCalls = .ok shape ∧
      shape.columns.map (·.name) = ["id", "created", "stars", "text", "day"] := ⟨_, by cbv, by cbv⟩
  have hsame := (declared_in_any_order hstamped hdistinct hperm).2 "Reviews" {} _ _ _ hcalls hother
  exact ⟨hstamped, hdistinct, hperm, _, hcalls, hother, shape, hshape, hsame.1.trans hshape, hnames⟩

end Draft

end Warehouse
