import Warehouse.Binding
import Warehouse.Column.Filter
import Warehouse.Dialect
import Warehouse.Instance
import Warehouse.PartitionValue

/-!
Tables bound to a dialect. A table keeps the declarations it was bound from, so that it can be bound to
another dialect. Columns can be given values and columns can be added, which changes the table in place.
-/

namespace Warehouse

/-- A table of a shape, bound to a dialect. -/
structure Table where
  shape : Shape
  schema : String
  dialect : Dialect
  columns : List BoundColumn
  properties : List BoundProperty
  policies : Policies

namespace Table

/-- What declarations of a table in the dialect are bound to. -/
def target (d : Dialect) : Binding.Target := ⟨d.vocabulary, d.name⟩

/-- Binds properties one after the other. -/
def bindProperties (t : Binding.Target) : List Property → Except Problem (List BoundProperty)
  | [] => .ok []
  | p :: rest =>
    Binding.property t p >>= fun b => bindProperties t rest >>= fun bs => .ok (b :: bs)

/-- Binds an instance to a dialect: its columns, then its properties. -/
def bind (i : Instance) (d : Dialect) : Except Problem Table :=
  Binding.columnList (target d) none i.columns >>= fun columns =>
    bindProperties (target d) i.properties >>= fun properties =>
      .ok { shape := i.shape
            schema := i.schema
            dialect := d
            columns
            properties
            policies := i.policies }

/-- The instance that the table is bound from, with the values it has now. -/
def toInstance (t : Table) : Instance where
  shape := t.shape
  schema := t.schema
  columns := t.columns.map (·.declared)
  properties := t.properties.map (·.declared)
  policies := t.policies

/-- The table in another dialect. -/
def rebind (t : Table) (d : Dialect) : Except Problem Table := bind t.toInstance d

/-- The words of the table's dialect. -/
def vocabulary (t : Table) : Vocabulary := t.dialect.vocabulary

/-- What the declaration says of the table. -/
def description (t : Table) : Option String := t.shape.description

/-! ### Columns -/

/-- The columns that the filter lets through, in order, with or without the partitions. -/
def select (t : Table) (withPartitions : Bool) (filter : Filter) : List BoundColumn :=
  t.columns.filter fun c => filter.accepts c.declared && (withPartitions || !c.isPartition)

/-- The partition columns, in order. -/
def partitions (t : Table) : List BoundColumn := t.columns.filter (·.isPartition)

/-- The names of the partition columns, in order. -/
def partitionNames (t : Table) : List String := t.partitions.map (·.name)

/-- The column of a name. -/
def column? (t : Table) (name : String) : Option BoundColumn := t.columns.find? (·.name == name)

/-- The names of the columns that the filter lets through. -/
def columnNames (t : Table) (withPartitions : Bool) (filter : Filter) : List String :=
  (t.select withPartitions filter).map (·.name)

/-- The load items of the columns that the filter lets through. -/
def loadValues (t : Table) (withPartitions : Bool) (filter : Filter) : List String :=
  (t.select withPartitions filter).map (·.loadValue)

/-- The first property of a kind. -/
def property? (t : Table) (kind : PropertyKind) : Option BoundProperty :=
  t.properties.find? (·.declared.kind == kind)

/-- Sets a column's value by hand. -/
def setValue (t : Table) (column value : String) : Change Table :=
  let change (c : BoundColumn) : BoundColumn := { c with declared := c.declared.setValue value }
  match updateFirst? (·.name == column) change t.columns with
  | some columns => .ok () { t with columns }
  | none => .error (.unknownColumn t.shape.name column) t

/-- Adds one more column, whose name must be new. -/
def addColumn (t : Table) (c : Column) : Change Table :=
  if c.name = "" then .error (.columnNameRequired (some t.shape.name)) t
  else if (t.column? c.name).isSome then .error (.columnNameNotUnique c.name) t
  else
    match Binding.column (target t.dialect) none c with
    | .ok b => .ok () { t with columns := t.columns ++ [b] }
    | .error p => .error p t

/-- A fresh table of the same shape, schema and dialect with these initial values. -/
def withValues (t : Table) (values : Dict String) : Except Problem Table :=
  Instance.create t.shape t.schema values.entries >>= fun i => bind i t.dialect

/-- The warnings that a fresh table with initial values gives. -/
def withValuesWarnings (t : Table) (values : Dict String) : List Warning :=
  Instance.createWarnings t.shape values.entries

/-! ### Names -/

/-- The name of the table. -/
def tableName (t : Table) : String := t.shape.tableName

/-- The name of the table behind the prefix of its shape. -/
def prefixedName (t : Table) : String := t.shape.namePrefix ++ t.tableName

/-- The current values of the partitions that have one, in a form fit for a name. -/
def valueWords (t : Table) : List String :=
  t.partitions.filterMap fun p => p.declared.currentValue?.map (PartitionValue.plain false false)

/-- The name of the table that data is staged in: it tells the values of the partitions. -/
def stagingName (t : Table) : String :=
  let words := String.intercalate "_" t.valueWords
  if words = "" then "stg_" ++ t.tableName else "stg_" ++ words ++ "_" ++ t.tableName

/-- The name of the staging table behind the prefix of the shape. -/
def prefixedStagingName (t : Table) : String := t.shape.namePrefix ++ t.stagingName

/-- A name in the table's schema, with a suffix, both parts quoted where asked. -/
def qualify (t : Table) (quoted : Bool) (name suffix : String) : String :=
  let quote (s : String) : String := if quoted then t.vocabulary.quoteTable s else s
  quote t.schema ++ "." ++ quote (name ++ suffix)

/-- The full name of the table. -/
def fullName (t : Table) (quoted withPrefix : Bool) (suffix : String) : String :=
  t.qualify quoted (if withPrefix then t.prefixedName else t.tableName) suffix

/-- The full name of the staging table. -/
def fullStagingName (t : Table) (quoted withPrefix : Bool) (suffix : String) : String :=
  t.qualify quoted (if withPrefix then t.prefixedStagingName else t.stagingName) suffix

/-- The name by which statements mean the table. -/
def reference (t : Table) (suffix : String) : String := t.fullName true true suffix

/-- The name by which statements mean the staging table. -/
def stagingReference (t : Table) (suffix : String) : String := t.fullStagingName true true suffix

/-- The storage path of the partition: a segment for each partition that has been given a value. -/
def partitionPath (t : Table) : String :=
  String.intercalate "/" (t.partitions.filterMap fun p =>
    p.declared.value.map fun v => p.name ++ "=" ++ PartitionValue.plain false true v)

end Table

end Warehouse
