import Warehouse.Proofs.Prototype.Rows
import Warehouse.Proofs.Table.Descent

/-!
The declarations of a table as those of a prototype. A shape has been checked down to the last field, while
a column that is added later is only checked for its own name and for what it needs in order to bind. So the
columns of a table have names of their own all along, but the rows in the added columns have been looked at
by nobody. Main statement: when the declarations of a table still make a prototype, whatever has happened to
the table, and which problem they have otherwise.
-/

namespace Warehouse

open Outcome (error? error?_eq_none)

/-- A prototype of a declared shape has columns, and its rows are well named. -/
theorem Shape.Declared.sound {s : Shape} (h : s.Declared) {p : Prototype} (hp : s.prototype = some p) :
    p.columns ≠ [] ∧ ∀ c ∈ p.columns, c.RowsNamed := by
  obtain ⟨_, _, _, hcreate⟩ := h.exists_create hp
  exact Prototype.create_sound hcreate

/-! ### Columns of a shape and added ones -/

namespace Instance.Descends

variable {p : Prototype} {added : List Column} {i : Instance} (hi : i.Descends p added)
include hi

/-- There are columns if the prototype has some. -/
theorem columns_ne_nil (hp : p.columns ≠ []) : i.columns ≠ [] := by
  intro hempty
  have hcolumns := hi.columns
  rw [hempty, List.map_nil] at hcolumns
  have hfront := (List.append_eq_nil_iff.1 hcolumns.symm).1
  exact hp (List.map_eq_nil_iff.1 hfront)

/-- If all rows of the prototype are well named, then the first faulty row is in an added column. -/
theorem firstRowFault?_columns (hp : ∀ c ∈ p.columns, c.RowsNamed) :
    Prototype.firstRowFault? (i.columns.flatMap Column.declarations) =
      Prototype.firstRowFault? (added.flatMap Column.declarations) := by
  -- faults do not hang on values, so the columns can be taken for those that they come from
  have hunset := Prototype.firstRowFault?_map Column.unset (fun _ => rfl) (fun _ => rfl)
  rw [← hunset i.columns, hi.columns, ← List.map_append, hunset, List.flatMap_append,
    Prototype.firstRowFault?_append, Prototype.firstRowFault?_eq_none.2 hp, Option.none_or]

end Instance.Descends

namespace Table

/-! ### Runs -/

/-- The columns added to those of the shape behind operations, given those added before. -/
def addedBy (t : Table) (added : List Column) : List Operation → List Column
  | [] => added
  | o :: rest => (t.after o).addedBy (t.addedAfter added o) rest

theorem run_descends : ∀ (operations : List Operation) {t : Table} {p : Prototype} {added : List Column},
    t.toInstance.Descends p added →
      ∃ q, (t.run operations).toInstance.Descends q (t.addedBy added operations)
  | [], _, p, _, h => ⟨p, h⟩
  | o :: rest, _, _, _, h => by
    obtain ⟨_, hq⟩ := after_descends h o
    exact run_descends rest hq

/-! ### Prototypes again -/

/-- How the declarations of a table fare in the checks of a prototype, given the columns that were added to
those of its shape. -/
structure Redeclares (t : Table) (added : List Column) : Prop where
  /-- The columns have names, no two the same. -/
  named : WellNamed t.toInstance.columns
  /-- The declarations fail as the first faulty row in the added columns does. -/
  outcome : ∀ properties policies, error? (Prototype.create t.toInstance.columns properties policies) =
    Prototype.firstRowFault? (added.flatMap Column.declarations)
  /-- So they make a prototype exactly when all rows in the added columns are well named. -/
  valid : ∀ properties policies,
    (∃ p, Prototype.create t.toInstance.columns properties policies = .ok p) ↔
      ∀ c ∈ added, c.RowsNamed
  /-- The problem is that of a row in an added column. -/
  fault : ∀ properties policies problem,
    Prototype.create t.toInstance.columns properties policies = .error problem →
      ∃ c ∈ added, ∃ row ∈ c.declarations, RowFault row problem
  /-- Exactly then all rows at any depth of all columns are well named. -/
  rows : (∀ b ∈ t.columns, b.declared.RowsNamed) ↔ ∀ c ∈ added, c.RowsNamed

theorem WellBound.redeclares {t : Table} (ht : t.WellBound) {p : Prototype} {added : List Column}
    (hp : t.toInstance.Descends p added) : t.Redeclares added := by
  obtain ⟨hnonempty, hsound⟩ := ht.shape.sound hp.prototype
  have hfault := hp.firstRowFault?_columns hsound
  have houtcome : ∀ properties policies,
      error? (Prototype.create t.toInstance.columns properties policies) =
        Prototype.firstRowFault? (added.flatMap Column.declarations) := fun properties policies => by
    rw [Prototype.error?_create (hp.columns_ne_nil hnonempty) ht.named, hfault]
  constructor
  case named => exact ht.named
  case outcome => exact houtcome
  case valid =>
    intro properties policies
    rw [← error?_eq_none, houtcome, Prototype.firstRowFault?_eq_none]
  case fault =>
    intro properties policies problem h
    rw [← Outcome.error?_eq_some, houtcome] at h
    exact Prototype.rowFault_of_firstRowFault? h
  case rows =>
    rw [← Prototype.firstRowFault?_eq_none, ← hfault, Prototype.firstRowFault?_eq_none, toInstance,
      List.forall_mem_map]

/-- Whatever is done to a table, its declarations make a prototype again exactly when the rows in the columns
that were added to those of its shape are well named; what is wrong otherwise is the first of these rows that
is not. -/
theorem redeclares_after_run {i : Instance} (hi : i.Declared) {d : Dialect} {t : Table}
    (hbind : bind i d = .ok t) (operations : List Operation) :
    (t.run operations).Redeclares (t.addedBy [] operations) := by
  obtain ⟨_, hp⟩ := bind_descends hi hbind
  obtain ⟨_, hq⟩ := run_descends operations hp
  exact ((Reachable.bound hi hbind).run operations).wellBound.redeclares hq

/-- A row of two parts of the names given. -/
def place (first second : String) : Column :=
  Column.row "place" [Column.scalar first .varchar, Column.scalar second .varchar]

/-- A table of visits stays that of a prototype when a row of two fields is added in an array and the table
moves to another dialect. -/
theorem visits_redeclare : ∃ t p, bind visitInstance .presto = .ok t ∧
    (t.run [.addColumn (Column.array "stops" (place "town" "land")), .setValue "id" "1",
      .rebind .hive]).toInstance.columns.map (·.name) = ["id", "email", "ds", "country", "stops"] ∧
    Prototype.create (t.run [.addColumn (Column.array "stops" (place "town" "land")), .setValue "id" "1",
      .rebind .hive]).toInstance.columns [] Policies.none = .ok p := by
  have hbind : bind visitInstance .presto = .ok _ := rfl
  have hafter := redeclares_after_run visitInstance_declared hbind
    [.addColumn (Column.array "stops" (place "town" "land")), .setValue "id" "1", .rebind .hive]
  obtain ⟨p, hp⟩ := error?_eq_none.1 ((hafter.outcome [] Policies.none).trans (by cbv))
  exact ⟨_, p, hbind, by cbv, hp⟩

/-- A row with two fields of one name can be added, and then the declarations make no prototype. -/
theorem place_is_refused : ∃ i d t, i.Declared ∧ bind i d = .ok t ∧
    ∃ t', t.addColumn (place "part" "part") = .ok () t' ∧
      Prototype.create t'.toInstance.columns [] Policies.none =
        .error (.columnNameNotUnique "place.part") :=
  ⟨visitInstance, .presto, _, visitInstance_declared, rfl, _, rfl, by cbv⟩

end Table

end Warehouse
