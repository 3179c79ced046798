import Warehouse.Json
import Warehouse.Module

/-!
Modules as JSON values: every field is written, and one without content is null or empty.
-/

namespace Warehouse

/-- A text that may be missing. -/
def jsonText? (s : Option String) : Json := (s.map .text).getD .null

/-- A map as an object. -/
def jsonDict {α : Type} (write : α → Json) (d : Dict α) : Json :=
  .object (d.entries.map fun (key, v) => (key, write v))

/-- An attribute as a value. -/
def Attribute.toJson : Attribute → Json
  | bool b => .bool b
  | int i => .int i.toInt
  | float x => .float x
  | text s => .text s
  | list items => .list (items.map .text)

/-- Privacy rules as a value. -/
def Privacy.toJson (p : Privacy) : Json :=
  .object
    [("name", jsonText? p.name),
      ("drop_on", jsonText? (p.dropOn.map (·.key))),
      ("transform_on_insert", jsonText? p.onInsert),
      ("transform_on_delete", jsonText? p.onDelete)]

/-- The privacy rules of a column entry as a value. -/
def PrivacyRef.toJson : PrivacyRef → Json
  | category name => .text name
  | inline rules => rules.toJson

/-- A property as a value. -/
def Property.toJson (p : Property) : Json :=
  .object [("kind", .text p.kind.key), ("attributes", jsonDict Attribute.toJson p.attributes)]

/-- The fields of a policy that acts by itself. -/
def Expiry.fields (e : Expiry) : List (String × Json) :=
  [("ds_ago", .int e.daysAgo.toNat),
    ("earliest_partition", (e.earliest.map (jsonDict .text)).getD .null)]

/-- A policy as a value. -/
def Policy.toJson (p : Policy) : Json :=
  .object (("kind", .text p.kind.key) :: ((p.expiry?.map (·.fields)).getD []))

namespace ColumnEntry

mutual

/-- A column entry as a value. -/
def toJson : ColumnEntry → Json
  | ⟨h, element, keyType, valueType, fields⟩ =>
    .object
      [("name", .text h.name),
        ("type", .text h.type.key),
        ("attributes", jsonDict Attribute.toJson h.attributes),
        ("comment", jsonText? h.comment),
        ("default_value", jsonText? h.defaultValue),
        ("partition", .bool h.partition),
        ("value", jsonText? h.value),
        ("pii", (h.privacy.map (·.toJson)).getD .null),
        ("element", partToJson element),
        ("key_type", partToJson keyType),
        ("value_type", partToJson valueType),
        ("fields", .list (listToJson fields))]

/-- A part that may be missing as a value. -/
def partToJson : Option ColumnEntry → Json
  | none => .null
  | some e => toJson e

/-- Several entries as values. -/
def listToJson : List ColumnEntry → List Json
  | [] => []
  | e :: rest => toJson e :: listToJson rest

end

end ColumnEntry

/-- A table entry as a value. -/
def TableEntry.toJson (t : TableEntry) : Json :=
  .object
    [("name", .text t.name),
      ("description", jsonText? t.description),
      ("prefix", jsonText? t.namePrefix),
      ("abstract", .bool t.isAbstract),
      ("extends", jsonText? t.base),
      ("columns", .list (ColumnEntry.listToJson t.columns)),
      ("properties", .list (t.properties.map (·.toJson))),
      ("policies", .list (t.policies.map (·.toJson)))]

/-- A module as a value. -/
def Module.toJson (m : Module) : Json :=
  .object
    [("name", jsonText? m.name),
      ("description", jsonText? m.description),
      ("pii", jsonDict Privacy.toJson m.privacy),
      ("tables", .list (m.tables.map (·.toJson)))]

end Warehouse
