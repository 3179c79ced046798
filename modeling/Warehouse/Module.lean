import Warehouse.Shape
import Warehouse.Table
import Warehouse.Text.Blank

/-!
Modules of declarations: named categories of personal data and tables, as a file declares them. A module
is checked as a whole, and a checked one is turned into shapes, instances of these and bound tables, all
in one schema.
-/

namespace Warehouse

/-- The privacy rules of a column entry: a category of the module by name, or rules of its own. -/
inductive PrivacyRef where
  | category (name : String)
  | inline (rules : Privacy)
  deriving DecidableEq, Repr

/-- What a column entry says besides its parts. -/
structure EntryHead where
  name : String
  type : DataType
  attributes : Attributes := Dict.empty
  comment : Option String := none
  defaultValue : Option String := none
  partition : Bool := false
  value : Option String := none
  privacy : Option PrivacyRef := none

/-- A column as a file declares it. Which of the parts may be given depends on its type. -/
structure ColumnEntry extends EntryHead where
  element : Option ColumnEntry := none
  keyType : Option ColumnEntry := none
  valueType : Option ColumnEntry := none
  fields : List ColumnEntry := []

/-- A table as a file declares it. -/
structure TableEntry where
  name : String
  description : Option String := none
  namePrefix : Option String := none
  isAbstract : Bool := false
  base : Option String := none
  columns : List ColumnEntry := []
  properties : List Property := []
  policies : List Policy := []

/-- A module of declarations. -/
structure Module where
  name : Option String := none
  description : Option String := none
  privacy : Dict Privacy := Dict.empty
  tables : List TableEntry := []

namespace Module

/-- The name of a module that has none of its own. -/
def defaultName : String := "default"

/-- The name of the module, which is the schema of its tables. -/
def schema (m : Module) : String := m.name.getD defaultName

end Module

/-! ### From entries to declarations -/

namespace ColumnEntry

/-- The privacy rules of an entry of this name. A category without a name of its own is named as the
module names it. -/
def rules (categories : Dict Privacy) (column : String) :
    Option PrivacyRef → Except Problem Privacy
  | none => .ok {}
  | some (.inline rules) => .ok rules
  | some (.category name) =>
    match categories.find? name with
    | some rules => .ok { rules with name := some (rules.name.getD name) }
    | none => .error (.configuration (.categoryUnknown column name))

/-- The problem of an entry that lacks a part which its type needs. -/
def partMissing (h : EntryHead) (part : String) : Problem :=
  .configuration (.partMissing h.name h.type.label part)

/-- The column of an entry whose kind is known. -/
def withKind (categories : Dict Privacy) (h : EntryHead) (kind : Kind Column) :
    Except Problem Column :=
  (rules categories h.name h.privacy).map fun privacy =>
    { name := h.name
      attributes := h.attributes
      privacy
      isPartition := h.partition
      value := h.value
      defaultValue := h.defaultValue
      comment := h.comment
      kind }

mutual

/-- The declaration of an entry. -/
def toColumn (categories : Dict Privacy) : ColumnEntry → Except Problem Column
  | ⟨h, element, keyType, valueType, fields⟩ =>
    match h.type with
    | .array =>
      partToColumn categories (partMissing h "element") element >>= fun e =>
        withKind categories h (.array e)
    | .map =>
      partToColumn categories (partMissing h "key_type") keyType >>= fun k =>
        partToColumn categories (partMissing h "value_type") valueType >>= fun v =>
          withKind categories h (.map k v)
    | .row => toColumns categories fields >>= fun fs => withKind categories h (.row fs)
    | t => withKind categories h (.scalar t)

/-- The declaration of a part that must be there. -/
def partToColumn (categories : Dict Privacy) (absent : Problem) :
    Option ColumnEntry → Except Problem Column
  | some part => toColumn categories part
  | none => .error absent

/-- The declarations of several entries. -/
def toColumns (categories : Dict Privacy) : List ColumnEntry → Except Problem (List Column)
  | [] => .ok []
  | e :: rest =>
    toColumn categories e >>= fun c => toColumns categories rest >>= fun cs => .ok (c :: cs)

end

end ColumnEntry

namespace TableEntry

/-- The draft of a table, on top of the shape it extends. -/
def draft (t : TableEntry) (base : Option Shape) : Draft :=
  let start : Draft := { name := t.name }
  let extended := match base with
    | some s => start.extend s
    | none => start
  { extended with
    description := t.description
    namePrefix := t.namePrefix.or extended.namePrefix
    isAbstract := t.isAbstract }

/-- Declares columns one after the other. -/
def declareColumns (categories : Dict Privacy) (d : Draft) (s : Sequence) :
    List ColumnEntry → Except Problem (Draft × Sequence)
  | [] => .ok (d, s)
  | e :: rest =>
    e.toColumn categories >>= fun c =>
      let (d, s) := d.column s c
      declareColumns categories d s rest

/-- The shape that an entry extends, among the shapes declared before it. -/
def findBase (t : TableEntry) (earlier : List Shape) : Except Problem (Option Shape) :=
  match t.base with
  | none => .ok none
  | some base =>
    match earlier.reverse.find? (·.name == base) with
    | some s => .ok (some s)
    | none => .error (.configuration (.baseUnknown t.name base))

/-- The shape of a table, and the sequence after its columns. -/
def shape (t : TableEntry) (categories : Dict Privacy) (earlier : List Shape) (s : Sequence) :
    Except Problem (Shape × Sequence) :=
  t.findBase earlier >>= fun base =>
    declareColumns categories (t.draft base) s t.columns >>= fun (d, s) =>
      let full := t.policies.foldl Draft.policy (t.properties.foldl Draft.property d)
      full.build.map fun built => (built, s)

end TableEntry

namespace Module

/-- The shapes of tables, given those declared before them. -/
def shapesAfter (categories : Dict Privacy) (earlier : List Shape) (s : Sequence) :
    List TableEntry → Except Problem (List Shape)
  | [] => .ok earlier
  | t :: rest =>
    t.shape categories earlier s >>= fun (shape, s) =>
      shapesAfter categories (earlier ++ [shape]) s rest

/-- The shapes of the module's tables, in order. All take their ranks from one sequence. -/
def shapes (m : Module) : Except Problem (List Shape) := shapesAfter m.privacy [] {} m.tables

/-- Instances of shapes without initial values. -/
def instancesOf (schema : String) : List Shape → Except Problem (List Instance)
  | [] => .ok []
  | s :: rest =>
    Instance.create s schema [] >>= fun i => instancesOf schema rest >>= fun is => .ok (i :: is)

/-- An instance of each table that is not marked abstract, in order. -/
def instances (m : Module) : Except Problem (List Instance) :=
  m.shapes >>= fun shapes =>
    let concrete := (m.tables.zip shapes).filter fun (entry, _) => !entry.isAbstract
    instancesOf m.schema (concrete.map (·.2))

/-- Tables in a dialect. -/
def bindInstances (d : Dialect) : List Instance → Except Problem (List Table)
  | [] => .ok []
  | i :: rest => Table.bind i d >>= fun t => bindInstances d rest >>= fun ts => .ok (t :: ts)

/-- The tables of the module in a dialect. -/
def bindAll (m : Module) (d : Dialect) : Except Problem (List Table) :=
  m.instances >>= bindInstances d

end Module

end Warehouse
