import Warehouse.Document.Resolve
import Warehouse.Module

/-!
Reading declarations and modules from documents. A record refuses fields that it does not have, except
for policies and external storage, which skip them. Attributes, the privacy rules of a column and
policies take values of any type first, so that there a number is never a text.
-/

namespace Warehouse

namespace Attribute

/-- The attribute that an integer gives; one beyond 64 signed bits becomes a float. -/
def ofInt (i : Int) : Attribute :=
  if -0x8000000000000000 ≤ i && i ≤ 0x7FFFFFFFFFFFFFFF then .int (Int64.ofInt i)
  else .float (if i < 0 then -Float.ofNat i.natAbs else Float.ofNat i.natAbs)

/-- The attribute that a value without parts gives. -/
def ofAtom? : Atom → Option Attribute
  | .null => none
  | .bool b => some (bool b)
  | .int i => some (ofInt i)
  | .float x => some (float x)
  | .text s => some (text s)

/-- An item of a list as text. -/
def item? : Document → Option String
  | .atom a => (ofAtom? a).map display
  | _ => none

/-- The attribute that a document gives. -/
def ofDocument? (d : Document) : Option Attribute :=
  d.resolve?.bind fun
    | .atom a => ofAtom? a
    | .list _ items => (items.mapM item?).map list
    | _ => none

end Attribute

open Document

/-- Attributes by name. -/
def readAttributes (d : Document) : Option Attributes := dictOf Attribute.ofDocument? d

namespace Privacy

/-- The fields of privacy rules. -/
def fieldNames : List String := ["name", "drop_on", "transform_on_insert", "transform_on_delete"]

/-- The privacy rules that a document gives. -/
def ofDocument? (d : Document) : Option Privacy := do
  let fs ← d.fields? fieldNames true
  let name ← optional fs "name" text?
  let dropOn ← optional fs "drop_on" fun d => d.variant?.bind Lifecycle.ofKey?
  let onInsert ← optional fs "transform_on_insert" text?
  let onDelete ← optional fs "transform_on_delete" text?
  return { name, dropOn, onInsert, onDelete }

end Privacy

/-- The privacy rules of a column: a text names a category, a record gives rules. -/
def PrivacyRef.ofDocument? (d : Document) : Option PrivacyRef :=
  d.resolve?.bind fun
    | .atom (.text name) => some (.category name)
    | d => (Privacy.ofDocument? d).map .inline

namespace Property

/-- The fields of a property. -/
def fieldNames : List String := ["kind", "attributes"]

/-- The property that a document gives. -/
def ofDocument? (d : Document) : Option Property := do
  let fs ← d.fields? fieldNames true
  let kind ← required fs "kind" fun d => d.variant?.bind PropertyKind.ofKey?
  let attributes ← defaulted fs "attributes" Dict.empty readAttributes
  return { kind, attributes }

end Property

namespace ExternalStorage

/-- The fields of external storage. -/
def fieldNames : List String := ["location", "configs"]

/-- The external storage that a document gives. -/
def ofDocument? (d : Document) : Option ExternalStorage := do
  let fs ← d.fields? fieldNames false
  let location ← required fs "location" text?
  let settings ← defaulted fs "configs" Dict.empty (dictOf text?)
  return { location, settings }

end ExternalStorage

namespace Policy

/-- A number of days, of 32 bits. -/
def days? : Document → Option UInt32
  | .atom (.int i) => if 0 ≤ i && i ≤ 0xFFFFFFFF then some (UInt32.ofNat i.toNat) else none
  | _ => none

/-- When a policy acts. -/
def readExpiry (d : Document) : Option Expiry := do
  let fs ← d.fields? ["ds_ago", "earliest_partition"] false
  let daysAgo ← required fs "ds_ago" days?
  let earliest ← optional fs "earliest_partition" (dictOf text?)
  return { daysAgo, earliest }

/-- Whether an entry of a table gives its kind. -/
def isKind (entry : Document × Document) : Bool := entry.1.text? == some "kind"

/-- A document as the text that is written, if it is a scalar. -/
def asText : Document → Document
  | .scalar s => .atom (.text s.text)
  | d => d

/-- The document with its kind as a text: it stands under its name, or first in a list. -/
def withKindAsText : Document → Document
  | .table form entries =>
    .table form (entries.map fun (key, d) => (key, if isKind (key, d) then asText d else d))
  | .list form (d :: rest) => .list form (asText d :: rest)
  | d => d

/-- The kind that a document names, once, and the document of the rest. -/
def splitKind? : Document → Option (String × Document)
  | .table form entries =>
    match entries.partition isKind with
    | ([(_, d)], rest) => d.text?.map fun name => (name, .table form rest)
    | _ => none
  | .list form (d :: rest) => d.text?.map fun name => (name, .list form rest)
  | _ => none

/-- Whether a document is a list with items. -/
def hasItems : Document → Bool
  | .list _ (_ :: _) => true
  | _ => false

/-- The policy that a document gives. A policy that is left to a person has its kind and no more. -/
def ofDocument? (d : Document) : Option Policy := do
  let (name, rest) ← splitKind? (← (withKindAsText d).resolve?)
  match ← PolicyKind.ofKey? name with
  | .partitionRetention => (readExpiry rest).map .retention
  | .partitionAnonymisation => (readExpiry rest).map .anonymisation
  | .manualAnonymisation => if hasItems rest then none else some .manual

end Policy

namespace ColumnEntry

/-- The fields of a column entry. -/
def fieldNames : List String :=
  ["name", "type", "attributes", "comment", "default_value", "partition", "value", "pii", "element",
    "key_type", "value_type", "fields"]

/-- The type that a document names. -/
def readType (d : Document) : Option DataType := d.variant?.bind DataType.ofKey?

/-- The column entry that a document gives, read to the depth given. -/
def read : Nat → Document → Option ColumnEntry
  | 0, _ => none
  | depth + 1, d => do
    let fs ← d.fields? fieldNames true
    let name ← defaulted fs "name" "" text?
    let type ← required fs "type" readType
    let attributes ← defaulted fs "attributes" Dict.empty readAttributes
    let comment ← optional fs "comment" text?
    let defaultValue ← optional fs "default_value" text?
    let partition ← defaulted fs "partition" false flag?
    let value ← optional fs "value" text?
    let privacy ← optional fs "pii" PrivacyRef.ofDocument?
    let element ← optional fs "element" (read depth)
    let keyType ← optional fs "key_type" (read depth)
    let valueType ← optional fs "value_type" (read depth)
    let fields ← defaulted fs "fields" [] (listOf (read depth))
    return { name, type, attributes, comment, defaultValue, partition, value, privacy, element,
             keyType, valueType, fields }

/-- The column entry that a document gives. -/
def ofDocument? (d : Document) : Option ColumnEntry := read d.depth d

end ColumnEntry

namespace TableEntry

/-- The fields of a table entry. -/
def fieldNames : List String :=
  ["name", "description", "prefix", "abstract", "extends", "columns", "properties", "policies"]

/-- The table entry that a document gives. -/
def ofDocument? (d : Document) : Option TableEntry := do
  let fs ← d.fields? fieldNames true
  let name ← required fs "name" text?
  let description ← optional fs "description" text?
  let namePrefix ← optional fs "prefix" text?
  let isAbstract ← defaulted fs "abstract" false flag?
  let base ← optional fs "extends" text?
  let columns ← defaulted fs "columns" [] (listOf ColumnEntry.ofDocument?)
  let properties ← defaulted fs "properties" [] (listOf Property.ofDocument?)
  let policies ← defaulted fs "policies" [] (listOf Policy.ofDocument?)
  return { name, description, namePrefix, isAbstract, base, columns, properties, policies }

end TableEntry

namespace Module

/-- The fields of a module. -/
def fieldNames : List String := ["name", "description", "pii", "tables"]

/-- The module that a document gives. -/
def ofDocument? (d : Document) : Option Module := do
  let fs ← d.fields? fieldNames true
  let name ← optional fs "name" text?
  let description ← optional fs "description" text?
  let privacy ← defaulted fs "pii" Dict.empty (dictOf Privacy.ofDocument?)
  let tables ← defaulted fs "tables" [] (listOf TableEntry.ofDocument?)
  return { name, description, privacy, tables }

end Module

end Warehouse
