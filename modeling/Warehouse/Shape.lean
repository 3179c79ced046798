import Warehouse.Prototype
import Warehouse.TableName

/-!
Table shapes and how they are declared. A draft collects what is said of a table, in any order, and
takes over what it extends; building it gives the shape, with a prototype unless the table is abstract
or has no columns. Columns get their rank from a sequence that several drafts may share.
-/

namespace Warehouse

/-- A counter that hands out the ranks of columns. -/
structure Sequence where
  next : UInt64 := 0
  deriving DecidableEq, Repr

namespace Sequence

/-- The next number, and the sequence after it. -/
def nextKey (s : Sequence) : UInt64 × Sequence := (s.next, ⟨s.next + 1⟩)

/-- The column with an ordering key, and the sequence after it. A column that has a key keeps it and
takes none from the sequence. -/
def stamp (s : Sequence) (c : Column) : Column × Sequence :=
  match c.orderingKey with
  | some _ => (c, s)
  | none => ({ c with orderingKey := some s.next }, ⟨s.next + 1⟩)

end Sequence

/-- A declared table: what other tables can extend, and its prototype when it can exist itself. -/
structure Shape where
  name : String
  description : Option String
  namePrefix : String
  columns : List Column
  properties : List Property
  policies : Policies
  prototype : Option Prototype

namespace Shape

/-- The name of the table. -/
def tableName (s : Shape) : String := Warehouse.tableName s.name

/-- Whether no table of this shape can exist. -/
def isAbstract (s : Shape) : Bool := s.prototype.isNone

/-- The prototype, which an abstract shape lacks. -/
def requirePrototype (s : Shape) : Except Problem Prototype :=
  match s.prototype with
  | some p => .ok p
  | none => .error (.prototypeRequired s.name)

end Shape

/-- A table that is being declared. -/
structure Draft where
  name : String
  description : Option String := none
  namePrefix : Option String := none
  isAbstract : Bool := false
  inherited : List Column := []
  columns : List Column := []
  properties : List Property := []
  policies : Policies := Policies.none

namespace Draft

/-- Takes over what the base declares. The policies and the prefix of the base count only where the
draft has none. -/
def extend (d : Draft) (base : Shape) : Draft :=
  { d with
    inherited := d.inherited ++ base.columns
    properties := d.properties ++ base.properties
    policies := d.policies.orElse base.policies
    namePrefix := d.namePrefix.or (if base.namePrefix = "" then none else some base.namePrefix) }

/-- Adds a column that has its ordering key. -/
def addColumn (d : Draft) (c : Column) : Draft := { d with columns := d.columns ++ [c] }

/-- Declares a column with a key from the sequence. -/
def column (d : Draft) (s : Sequence) (c : Column) : Draft × Sequence :=
  let (stamped, s) := s.stamp c
  (d.addColumn stamped, s)

/-- Declares a column as a partition, with a key from the sequence. -/
def partition (d : Draft) (s : Sequence) (c : Column) : Draft × Sequence :=
  d.column s c.asPartition

/-- Declares several columns one after the other. -/
def columnList (d : Draft) (s : Sequence) : List Column → Draft × Sequence
  | [] => (d, s)
  | c :: rest =>
    let (d, s) := d.column s c
    d.columnList s rest

/-- Declares a property. -/
def property (d : Draft) (p : Property) : Draft := { d with properties := d.properties ++ [p] }

/-- Declares a policy, which replaces the one of its kind. -/
def policy (d : Draft) (p : Policy) : Draft := { d with policies := d.policies.insert p }

/-- The columns of the table: those inherited and not declared again, then its own, by rank. -/
def allColumns (d : Draft) : List Column :=
  let own := d.columns.map (·.name)
  byRank (d.inherited.filter (fun c => !own.contains c.name) ++ d.columns)

/-- The shape of the draft. -/
def build (d : Draft) : Except Problem Shape :=
  let columns := d.allColumns
  let shape (prototype : Option Prototype) : Shape :=
    { name := d.name
      description := d.description
      namePrefix := d.namePrefix.getD ""
      columns
      properties := d.properties
      policies := d.policies
      prototype }
  if columns.isEmpty || d.isAbstract then .ok (shape none)
  else Prototype.create columns d.properties d.policies >>= fun p => .ok (shape (some p))

end Draft

end Warehouse
