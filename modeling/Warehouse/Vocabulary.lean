import Warehouse.DataType
import Warehouse.Template
import Warehouse.Text.Replace

/-!
The vocabulary of a dialect: how it names types and properties, which attributes these need, how it
quotes names, and how it writes an assignment, the field of a row and a sample of a column.
-/

namespace Warehouse

/-- The mark that names are quoted with. -/
inductive QuoteStyle where
  | doubleQuote
  | backtick
  deriving DecidableEq, Repr, Inhabited

namespace QuoteStyle

/-- The quotation mark. -/
def mark : QuoteStyle → Char
  | doubleQuote => '\x22'
  | backtick => '\x60'

/-- The style's name in vocabulary files. -/
def key : QuoteStyle → String
  | doubleQuote => "double_quote"
  | backtick => "backtick"

/-- The style that a vocabulary file names. -/
def ofKey? : String → Option QuoteStyle
  | "double_quote" => some doubleQuote
  | "backtick" => some backtick
  | _ => none

/-- A name between quotation marks; a mark inside the name is doubled. -/
def quoteChars (q : QuoteStyle) (name : List Char) : List Char :=
  q.mark :: (Text.replaceChar q.mark [q.mark, q.mark] name ++ [q.mark])

/-- A name between quotation marks; a mark inside the name is doubled. -/
def quote (q : QuoteStyle) (name : String) : String := String.ofList (q.quoteChars name.toList)

end QuoteStyle

open Template (slot) in
/-- The words of a dialect. A class without a template is one that the dialect does not have. -/
structure Vocabulary where
  typeTemplate : DataType → Option String := fun _ => none
  propertyTemplate : PropertyKind → Option String := fun _ => none
  typeNeeds : DataType → Option (List String) := fun _ => none
  propertyNeeds : PropertyKind → Option (List String) := fun _ => none
  tableQuote : QuoteStyle := .doubleQuote
  columnQuote : QuoteStyle := .doubleQuote
  columnSetter : String := slot "value" ++ " AS " ++ slot "name"
  rowField : String := slot "quoted_name" ++ " " ++ slot "type"
  sampleFunction : String := "MAX(" ++ slot "c" ++ ")"

namespace Vocabulary

instance : Inhabited Vocabulary := ⟨{}⟩

/-- The template of a class. -/
def template? (v : Vocabulary) : DeclarationClass → Option String
  | .column t => v.typeTemplate t
  | .property k => v.propertyTemplate k

/-- The attributes that declarations of a class must have. -/
def required (v : Vocabulary) : DeclarationClass → List String
  | .column t => (v.typeNeeds t).getD []
  | .property k => (v.propertyNeeds k).getD []

/-- The name of a schema or a table between quotation marks. -/
def quoteTable (v : Vocabulary) (name : String) : String := v.tableQuote.quote name

/-- The name of a column between quotation marks. -/
def quoteColumn (v : Vocabulary) (name : String) : String := v.columnQuote.quote name

/-- The vocabulary with a template for a type. -/
def withType (v : Vocabulary) (t : DataType) (template : String) : Vocabulary :=
  { v with typeTemplate := fun u => if u = t then some template else v.typeTemplate u }

/-- The vocabulary without a type and what it needs. -/
def withoutType (v : Vocabulary) (t : DataType) : Vocabulary :=
  { v with
    typeTemplate := fun u => if u = t then none else v.typeTemplate u
    typeNeeds := fun u => if u = t then none else v.typeNeeds u }

/-- The vocabulary with a template for a kind of property. -/
def withProperty (v : Vocabulary) (k : PropertyKind) (template : String) : Vocabulary :=
  { v with propertyTemplate := fun u => if u = k then some template else v.propertyTemplate u }

/-- The vocabulary in which declarations of a class must have the attributes. -/
def requires (v : Vocabulary) (c : DeclarationClass) (attributes : List String) : Vocabulary :=
  match c with
  | .column t =>
    { v with typeNeeds := fun u => if u = t then some attributes else v.typeNeeds u }
  | .property k =>
    { v with propertyNeeds := fun u => if u = k then some attributes else v.propertyNeeds u }

end Vocabulary

end Warehouse
