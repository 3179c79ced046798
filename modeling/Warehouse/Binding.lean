import Warehouse.Column
import Warehouse.Problem
import Warehouse.Property
import Warehouse.Vocabulary

/-!
Binding a declaration to a vocabulary: its class gets the vocabulary's template, filled with its
attributes and, for a composite column, with the types of what is nested in it. A declaration binds when
the vocabulary has its class, the declaration has the attributes that the class needs, and all that is
nested in it binds too.
-/

namespace Warehouse

/-- A column bound to a vocabulary. -/
structure BoundColumn where
  declared : Column
  typeText : String
  quotedName : String
  setterTemplate : String
  resolved : Attributes
  nested : List BoundColumn

/-- A property bound to a vocabulary. -/
structure BoundProperty where
  declared : Property
  text : String
  resolved : Attributes

namespace BoundColumn

/-- The name of the column. -/
def name (c : BoundColumn) : String := c.declared.name

/-- Whether the column is a partition. -/
def isPartition (c : BoundColumn) : Bool := c.declared.isPartition

/-- The comment on the column. -/
def comment (c : BoundColumn) : Option String := c.declared.comment

/-- An attribute that the column declares. -/
def attribute? (c : BoundColumn) (name : String) : Option Attribute :=
  c.declared.attributes.find? name

/-- The item that gives a value to the column in a select list. -/
def setter (c : BoundColumn) (value : String) : String :=
  Template.substitutePairs c.setterTemplate [("value", value), ("name", c.quotedName)]

/-- The item that loads the column. A partition with a value and a column set by hand are given it; a
column whose rules drop or transform it on insertion is dropped or transformed; any other is copied. -/
def loadValue (c : BoundColumn) : String :=
  let d := c.declared
  if d.isPartition then
    match d.currentValue? with
    | some value => c.setter value
    | none => c.quotedName
  else if d.manuallySet then c.setter (d.currentValue?.getD c.quotedName)
  else if d.privacy.dropsOn .insert then c.setter "NULL"
  else
    match d.privacy.insertTransform? c.quotedName with
    | some transformed => c.setter transformed
    | none => c.quotedName

/-- The expression of the column's value once its personal data is deleted. -/
def deleteValue (c : BoundColumn) : String :=
  let p := c.declared.privacy
  if p.dropsOn .delete then "NULL" else (p.deleteTransform? c.quotedName).getD c.quotedName

/-- Whether a rule acts on the column on deletion. -/
def hasDeleteRule (c : BoundColumn) : Bool := c.declared.privacy.hasDeleteRule

end BoundColumn

namespace Binding

/-- A vocabulary with the name of the dialect that it belongs to. -/
structure Target where
  vocabulary : Vocabulary
  dialect : String

/-- How messages name a column: by its path from the outermost one. A part without a name is named by
its type. -/
def label (parent : Option String) (c : Column) : String :=
  match parent with
  | none => c.name
  | some p => if c.name = "" then p ++ ".<" ++ c.dataType.label ++ ">" else p ++ "." ++ c.name

/-- The needed attributes that are not among those given. -/
def missing (needed : List String) (attributes : Attributes) : List String :=
  needed.filter fun a => !attributes.contains a

/-- The needed attributes with their values. -/
def resolve (needed : List String) (attributes : Attributes) : Attributes :=
  Dict.ofList (needed.filterMap fun a => (attributes.find? a).map fun v => (a, v))

/-- The template of a class, for a declaration that has what the class needs. -/
def template (t : Target) (label : String) (c : DeclarationClass) (attributes : Attributes) :
    Except Problem String :=
  match t.vocabulary.template? c with
  | none => .error (.classUnsupported label c.label t.dialect)
  | some template =>
    match missing (t.vocabulary.required c) attributes with
    | [] => .ok template
    | absent => .error (.attributesMissing label t.dialect absent)

/-- An attribute as a value for a template. -/
def templateValue : Attribute → Template.Value
  | .list items => .items items
  | other => .text other.display

/-- Attributes as the context of a template. -/
def attributeContext (attributes : Attributes) : Template.Context := fun name =>
  (attributes.find? name).map templateValue

/-- The fields of a row as the vocabulary writes them. -/
def rowFields (v : Vocabulary) (fields : List BoundColumn) : String :=
  String.intercalate ", " (fields.map fun f =>
    Template.substitutePairs v.rowField [("quoted_name", f.quotedName), ("type", f.typeText)])

/-- What a kind adds to the context of its template, given what is nested in it. -/
def kindContext (v : Vocabulary) (kind : Kind Column) (nested : List BoundColumn) :
    List (String × Template.Value) :=
  match kind, nested with
  | .array _, [element] => [("element", .text element.typeText)]
  | .map _ _, [key, value] => [("key_type", .text key.typeText), ("value_type", .text value.typeText)]
  | .row _, fields => [("fields", .text (rowFields v fields))]
  | _, _ => []

/-- The context of a column's template. What the kind adds counts first, then the names of the column,
then its attributes. -/
def columnContext (v : Vocabulary) (c : Column) (nested : List BoundColumn) : Template.Context :=
  let own := kindContext v c.kind nested ++
    [("name", .text c.name), ("quoted_name", .text (v.quoteColumn c.name))]
  fun name => (own.lookup name).or (attributeContext c.attributes name)

/-- The bound column, given its template and what is nested in it. -/
def boundColumn (v : Vocabulary) (c : Column) (template : String) (nested : List BoundColumn) :
    BoundColumn where
  declared := c
  typeText := Template.render template (columnContext v c nested)
  quotedName := v.quoteColumn c.name
  setterTemplate := v.columnSetter
  resolved := resolve (v.required (.column c.dataType)) c.attributes
  nested := nested

mutual

/-- Binds a column that is nested in the declaration of the given label, if in any. -/
def column (t : Target) (parent : Option String) : Column → Except Problem BoundColumn
  | ⟨declared, kind⟩ =>
    let c : Column := ⟨declared, kind⟩
    let label := label parent c
    template t label (.column kind.dataType) declared.attributes >>= fun text =>
      nestedColumns t label kind >>= fun nested => .ok (boundColumn t.vocabulary c text nested)

/-- Binds what is nested in a declaration of the given label. -/
def nestedColumns (t : Target) (parent : String) : Kind Column → Except Problem (List BoundColumn)
  | .scalar _ => .ok []
  | .array element => column t (some parent) element >>= fun e => .ok [e]
  | .map key value =>
    column t (some parent) key >>= fun k => column t (some parent) value >>= fun v => .ok [k, v]
  | .row fields => columnList t (some parent) fields

/-- Binds several columns of one parent. -/
def columnList (t : Target) (parent : Option String) :
    List Column → Except Problem (List BoundColumn)
  | [] => .ok []
  | c :: rest => column t parent c >>= fun b => columnList t parent rest >>= fun bs => .ok (b :: bs)

end

/-- Binds a property. -/
def property (t : Target) (p : Property) : Except Problem BoundProperty :=
  template t p.kind.label (.property p.kind) p.attributes >>= fun text =>
    .ok { declared := p
          text := Template.render text (attributeContext p.attributes)
          resolved := resolve (t.vocabulary.required (.property p.kind)) p.attributes }

end Binding

end Warehouse
