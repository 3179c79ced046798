import Mathlib.Data.List.Permutation
import Mathlib.Logic.Relation
import Warehouse.Proofs.Shape.Calls
import Warehouse.Proofs.Shape.Rank
import Warehouse.Proofs.Prototype.Names

/-!
Where in its declaration a table says what it extends. Taking over a shape is one step with what it does to
four parts of a draft, and it commutes with each call that says something of the table itself, since a
declared column, policy or prefix comes before an inherited one whenever it is said. Properties are the
exception: they are kept in the order in which they come. Main statement: moving what is extended changes
nothing, and own declarations come first.
-/

namespace Warehouse

/-- Whether it makes no difference if a shape is taken over before or after the call. -/
def DraftCall.isIndependent : DraftCall → Bool
  | extend _ => false
  | property _ => false
  | _ => true

/-- One move: a shape is taken over after some calls instead of before them. -/
inductive ExtendsLater : List DraftCall → List DraftCall → Prop
  | past (before : List DraftCall) (base : Shape) (between after : List DraftCall)
      (h : ∀ call ∈ between, call.isIndependent = true) :
      ExtendsLater (before ++ .extend base :: (between ++ after))
        (before ++ (between ++ .extend base :: after))

/-- Whether calls differ in where shapes are taken over, with moves in both directions. -/
def ExtendsMoved : List DraftCall → List DraftCall → Prop := Relation.EqvGen ExtendsLater

namespace Draft

/-- The shape that calls declare. -/
def declare (name : String) (s : Sequence) (calls : List DraftCall) : Except Problem Shape :=
  (run { name } s calls).1.build

/-! ### Moving -/

/-- Taking over a shape commutes with a call that is independent of it. -/
theorem perform_extend {call : DraftCall} (h : call.isIndependent = true) (d : Draft) (s : Sequence)
    (base : Shape) : (d.extend base).perform s call =
      ((d.perform s call).1.extend base, (d.perform s call).2) := by
  cases call with
  | description text => rfl
  | namePrefix text => rfl
  | markAbstract => rfl
  | extend other => cases h
  | column c => rfl
  | partition c => rfl
  | property p => cases h
  | policy p =>
    have hpolicies := Policies.orElse_insert d.policies base.policies p
    simp only [perform, policy, extend, hpolicies]

theorem run_extend {between : List DraftCall} (h : ∀ call ∈ between, call.isIndependent = true)
    (d : Draft) (s : Sequence) (base : Shape) :
    (d.extend base).run s between = ((d.run s between).1.extend base, (d.run s between).2) := by
  induction between generalizing d s with
  | nil => rfl
  | cons call between ih =>
    obtain ⟨hcall, hbetween⟩ := List.forall_mem_cons.1 h
    rw [run_cons, perform_extend hcall, ih hbetween, run_cons]

theorem run_later {calls moved : List DraftCall} (h : ExtendsLater calls moved) (d : Draft)
    (s : Sequence) : d.run s moved = d.run s calls := by
  cases h with
  | past before base between after hindependent =>
    rw [run_append, run_append, run_append, run_cons, run_cons, run_append]
    simp only [perform, run_extend hindependent]

theorem run_moved {calls moved : List DraftCall} (h : ExtendsMoved calls moved) (d : Draft)
    (s : Sequence) : d.run s moved = d.run s calls := by
  induction h with
  | rel _ _ h => exact run_later h d s
  | refl _ => rfl
  | symm _ _ _ ih => exact ih.symm
  | trans _ _ _ _ _ ih₁ ih₂ => exact ih₂.trans ih₁

end Draft

/-! ### Own declarations -/

/-- What the shape has of its own and what it has taken over. Its columns are those that were declared and
those of a base that were not declared again; of policies and prefixes the last that was declared counts, and
the first of a base only where none was. -/
structure Shape.OwnFirst (s : Shape) (calls : List DraftCall) : Prop where
  declared : ∀ c ∈ calls.filterMap (·.column?), ∃ e ∈ s.columns, c.StampedAs e
  columns : ∀ e ∈ s.columns, (∃ c ∈ calls.filterMap (·.column?), c.StampedAs e) ∨
    ∃ base ∈ calls.filterMap (·.base?), e ∈ base.columns ∧
      ∀ c ∈ calls.filterMap (·.column?), e.name ≠ c.name
  policies : ∀ kind, s.policies.find? kind =
    (calls.filterMap (·.policy? kind)).getLast?.or (calls.findSome? (·.basePolicy? kind))
  namePrefix : s.namePrefix =
    ((calls.filterMap (·.prefix?)).getLast?.or (calls.findSome? (·.basePrefix?))).getD ""

theorem Draft.declare_ownFirst {name : String} {s : Sequence} {calls : List DraftCall} {shape : Shape}
    (h : declare name s calls = .ok shape) : shape.OwnFirst calls := by
  obtain ⟨own, hcolumns, hown⟩ := run_columns calls { name } s
  have hinherited := run_inherited calls { name } s
  rw [List.nil_append] at hcolumns hinherited
  have hmem : ∀ e, e ∈ shape.columns ↔
      (e ∈ (calls.filterMap (·.base?)).flatMap (·.columns) ∧
        e.name ∉ (calls.filterMap (·.column?)).map (·.name)) ∨ e ∈ own := by
    intro e
    rw [build_ok h, mem_allColumns, hcolumns, hinherited, Column.StampedAs.names hown]
  constructor
  case declared =>
    intro c hc
    obtain ⟨e, he, hstamped⟩ := Column.StampedAs.exists_right hown hc
    exact ⟨e, (hmem e).2 (.inr he), hstamped⟩
  case columns =>
    intro e he
    rcases (hmem e).1 he with ⟨hbase, hnew⟩ | he
    · obtain ⟨base, hbase, he⟩ := List.mem_flatMap.1 hbase
      exact .inr ⟨base, hbase, he, fun c hc hname => hnew (List.mem_map.2 ⟨c, hc, hname.symm⟩)⟩
    · exact .inl (Column.StampedAs.exists_left hown he)
  case policies =>
    intro kind
    have hpolicies := run_last (fun d => d.policies.find? kind) (perform_policies kind) calls { name } s
    have hnone : Policies.none.find? kind = none := by cases kind <;> rfl
    rw [hnone, Option.none_or] at hpolicies
    rw [build_ok h]
    exact hpolicies
  case namePrefix =>
    have hprefix := run_last (·.namePrefix) perform_namePrefix calls { name } s
    rw [build_ok h]
    exact congrArg (·.getD "") hprefix

/-- It does not matter where in a declaration a shape is taken over, as long as the order of what is extended
and its place among the properties stay the same: the calls give the same shape, or fail in the same way, and
leave the same keys for other tables. A column, a policy or a prefix that is declared comes before an
inherited one in any case. -/
theorem Draft.extends_anywhere (name : String) (s : Sequence) (calls : List DraftCall) :
    (∀ moved, ExtendsMoved calls moved → declare name s moved = declare name s calls ∧
      (run { name } s moved).2 = (run { name } s calls).2) ∧
    ∀ shape, declare name s calls = .ok shape → shape.OwnFirst calls := by
  refine ⟨fun moved h => ?_, fun shape h => declare_ownFirst h⟩
  have hrun := run_moved h { name } s
  exact ⟨by rw [declare, declare, hrun], by rw [hrun]⟩

/-- A shape that pages are declared on top of. -/
def pageBase : Shape where
  name := "Base"
  description := none
  namePrefix := "tmp_"
  columns := [{ Column.scalar "id" .integer with orderingKey := some 0 },
    { Column.scalar "created" .integer with orderingKey := some 1 }]
  properties := []
  policies := { retention := some { daysAgo := 7 } }
  prototype := none

/-- What is said of pages besides what they extend. -/
def pageCalls : List DraftCall :=
  [.column (Column.scalar "extra" .integer), .namePrefix "web_",
    .column (Column.scalar "created" .timestamp), .policy (.retention { daysAgo := 30 })]

/-- The shape of pages: a column that is declared again stands where it is declared. -/
def pageShape : Shape where
  name := "Pages"
  description := none
  namePrefix := "web_"
  columns := [{ Column.scalar "id" .integer with orderingKey := some 0 },
    { Column.scalar "extra" .integer with orderingKey := some 2 },
    { Column.scalar "created" .timestamp with orderingKey := some 3 }]
  properties := []
  policies := { retention := some { daysAgo := 30 } }
  prototype := some ⟨[{ Column.scalar "id" .integer with orderingKey := some 0 },
    { Column.scalar "extra" .integer with orderingKey := some 2 },
    { Column.scalar "created" .timestamp with orderingKey := some 3 }], [],
    { retention := some { daysAgo := 30 } }⟩

/-- Pages that extend their base last have the shape that they have when they do so first, with their own
column, policy and prefix. -/
theorem pages_extend_last :
    ExtendsMoved (.extend pageBase :: pageCalls) (pageCalls ++ [.extend pageBase]) ∧
    Draft.declare "Pages" ⟨2⟩ (pageCalls ++ [.extend pageBase]) = .ok pageShape ∧
    pageShape.OwnFirst (.extend pageBase :: pageCalls) := by
  have hmoved : ExtendsMoved (.extend pageBase :: pageCalls) (pageCalls ++ [.extend pageBase]) :=
    .rel _ _ (.past [] pageBase pageCalls [] (by decide))
  have hshape : Draft.declare "Pages" ⟨2⟩ (.extend pageBase :: pageCalls) = .ok pageShape := by cbv
  obtain ⟨hanywhere, hown⟩ := Draft.extends_anywhere "Pages" ⟨2⟩ (.extend pageBase :: pageCalls)
  exact ⟨hmoved, (hanywhere _ hmoved).1.trans hshape, hown pageShape hshape⟩

end Warehouse
