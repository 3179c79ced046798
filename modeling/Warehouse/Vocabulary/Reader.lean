import Warehouse.Document
import Warehouse.Vocabulary

/-!
Vocabularies in documents: reading one, and the document of one.
-/

namespace Warehouse.Vocabulary

open Document

/-- The fields of a vocabulary. -/
def fieldNames : List String :=
  ["type_templates", "property_templates", "required_column_attributes",
    "required_property_attributes", "table_quote", "column_quote", "column_setter",
    "row_field_template", "sample_value_function"]

/-- What the last of the entries of a key binds it to. -/
def lastEntry {α β : Type} [BEq α] (entries : List (α × β)) (key : α) : Option β :=
  entries.reverse.lookup key

/-- A place for a table by type. -/
def byType {α : Type} (read : Document → Option α) (d : Document) :
    Option (DataType → Option α) :=
  (entriesOf (fun k => k.variant?.bind DataType.ofKey?) read d).map lastEntry

/-- A place for a table by kind of property. -/
def byProperty {α : Type} (read : Document → Option α) (d : Document) :
    Option (PropertyKind → Option α) :=
  (entriesOf (fun k => k.variant?.bind PropertyKind.ofKey?) read d).map lastEntry

/-- A place for a quote style. -/
def readQuote (d : Document) : Option QuoteStyle := d.variant?.bind QuoteStyle.ofKey?

/-- The vocabulary that a document gives; what it does not say is as in the default vocabulary. -/
def ofDocument? (d : Document) : Option Vocabulary := do
  let fs ← d.fields? fieldNames true
  let plain : Vocabulary := {}
  let typeTemplate ← defaulted fs "type_templates" plain.typeTemplate (byType text?)
  let propertyTemplate ←
    defaulted fs "property_templates" plain.propertyTemplate (byProperty text?)
  let typeNeeds ←
    defaulted fs "required_column_attributes" plain.typeNeeds (byType (listOf text?))
  let propertyNeeds ←
    defaulted fs "required_property_attributes" plain.propertyNeeds (byProperty (listOf text?))
  let tableQuote ← defaulted fs "table_quote" plain.tableQuote readQuote
  let columnQuote ← defaulted fs "column_quote" plain.columnQuote readQuote
  let columnSetter ← defaulted fs "column_setter" plain.columnSetter text?
  let rowField ← defaulted fs "row_field_template" plain.rowField text?
  let sampleFunction ← defaulted fs "sample_value_function" plain.sampleFunction text?
  return { typeTemplate, propertyTemplate, typeNeeds, propertyNeeds, tableQuote, columnQuote,
           columnSetter, rowField, sampleFunction }

/-- The entries of a table by type. -/
def typeEntries {α : Type} (write : α → Json) (table : DataType → Option α) : Json :=
  .object (DataType.all.filterMap fun t => (table t).map fun v => (t.key, write v))

/-- The entries of a table by kind of property. -/
def propertyEntries {α : Type} (write : α → Json) (table : PropertyKind → Option α) : Json :=
  .object (PropertyKind.all.filterMap fun k => (table k).map fun v => (k.key, write v))

/-- The vocabulary as a value. -/
def toJson (v : Vocabulary) : Json :=
  let names (l : List String) : Json := .list (l.map .text)
  .object
    [("type_templates", typeEntries .text v.typeTemplate),
      ("property_templates", propertyEntries .text v.propertyTemplate),
      ("required_column_attributes", typeEntries names v.typeNeeds),
      ("required_property_attributes", propertyEntries names v.propertyNeeds),
      ("table_quote", .text v.tableQuote.key),
      ("column_quote", .text v.columnQuote.key),
      ("column_setter", .text v.columnSetter),
      ("row_field_template", .text v.rowField),
      ("sample_value_function", .text v.sampleFunction)]

end Warehouse.Vocabulary
