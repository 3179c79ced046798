import Warehouse.Json
import Warehouse.Dict

/-!
Configuration documents before they are given a meaning. The leaves of a document are the atoms of JSON,
or scalars as they are written in YAML, where a scalar is text until its place in the document asks for
something else. The views below say what each kind of place reads from a document.
-/

namespace Warehouse

/-- How a scalar is written: plainly, as a literal block, or in some other way. -/
inductive ScalarStyle where
  | plain
  | literal
  | other
  deriving DecidableEq, Repr

/-- A scalar as it is written. -/
structure Scalar where
  style : ScalarStyle
  tag : Option String
  text : String
  deriving DecidableEq, Repr

/-- A value without parts. -/
inductive Atom where
  | null
  | bool (b : Bool)
  | int (i : Int)
  | float (x : Float)
  | text (s : String)

/-- What a list or a table is: a value, or a collection as it is written, with or without a tag of its
author's own. -/
inductive Form where
  | value
  | written
  | tagged
  deriving DecidableEq, Repr

/-- A configuration document. -/
inductive Document where
  | atom (a : Atom)
  | scalar (s : Scalar)
  | list (form : Form) (items : List Document)
  | table (form : Form) (entries : List (Document × Document))

/-- Whether a tag is one of the author's own, and no standard one. -/
def isLocalTag (tag : String) : Bool := tag.toList.head? == some '!'

namespace Scalar

/-- The standard tag of a name. -/
def standardTag (name : String) : String := "tag:yaml.org,2002:" ++ name

/-- Whether the text is one of the words for nothing. -/
def isNullWord (text : String) : Bool := text = "~" || text = "null" || text = "Null" || text = "NULL"

/-- The truth value that a text names. -/
def boolWord? (text : String) : Option Bool :=
  if text = "true" || text = "True" || text = "TRUE" then some true
  else if text = "false" || text = "False" || text = "FALSE" then some false
  else none

/-- The name that a local tag gives. -/
def localTag? (s : Scalar) : Option String :=
  match s.tag with
  | some tag =>
    match tag.toList with
    | ['!'] => some "!"
    | '!' :: name => some (String.ofList name)
    | _ => none
  | none => none

/-- The truth value of a scalar in a place for one: plain, or a literal block tagged as one. -/
def flag? (s : Scalar) : Option Bool :=
  match s.style with
  | .plain => boolWord? s.text
  | .literal => if s.tag = some (standardTag "bool") then boolWord? s.text else none
  | .other => none

/-- Whether a scalar says that nothing is there; none when its tag says so and its text does not. -/
def absent? (s : Scalar) : Option Bool :=
  if s.style ≠ .plain then some false
  else
    match s.tag with
    | some tag =>
      if tag = standardTag "null" then (if isNullWord s.text then some true else none)
      else some false
    | none => some (s.text = "" || isNullWord s.text)

/-- Whether the scalar is written as nothing at all. -/
def isBlank (s : Scalar) : Bool := s.style = .plain && s.text = ""

/-- The name of an alternative: the text, or the local tag of a scalar that says nothing else. -/
def variant? (s : Scalar) : Option String :=
  match s.localTag? with
  | some name => if s.style = .plain && (s.text = "" || isNullWord s.text) then some name else none
  | none => some s.text

end Scalar

namespace Document

instance : Inhabited Document := ⟨atom .null⟩

mutual

/-- The document of a JSON value. -/
def ofJson : Json → Document
  | .null => atom .null
  | .bool b => atom (.bool b)
  | .int i => atom (.int i)
  | .float x => atom (.float x)
  | .text s => atom (.text s)
  | .list items => list .value (ofItems items)
  | .object entries => table .value (ofEntries entries)

/-- The documents of several values. -/
def ofItems : List Json → List Document
  | [] => []
  | j :: rest => ofJson j :: ofItems rest

/-- The entries of a table, from those of an object. -/
def ofEntries : List (String × Json) → List (Document × Document)
  | [] => []
  | (key, j) :: rest => (atom (.text key), ofJson j) :: ofEntries rest

end

/-- What a place for text reads: any scalar as it is written, but of atoms only texts. -/
def text? : Document → Option String
  | atom (.text s) => some s
  | scalar s => some s.text
  | _ => none

/-- What a place for a truth value reads. -/
def flag? : Document → Option Bool
  | atom (.bool b) => some b
  | scalar s => s.flag?
  | _ => none

/-- Whether a place that may be empty is empty; none when the document contradicts itself. -/
def absent? : Document → Option Bool
  | atom .null => some true
  | scalar s => s.absent?
  | _ => some false

/-- The name of an alternative. -/
def variant? : Document → Option String
  | atom (.text s) => some s
  | table .value [(atom (.text name), atom .null)] => some name
  | scalar s => s.variant?
  | _ => none

/-- The items that a place for a list reads. -/
def items? : Document → Option (List Document)
  | list _ items => some items
  | scalar s => if s.isBlank then some [] else none
  | _ => none

/-- The entries that a place for a table reads. -/
def entries? : Document → Option (List (Document × Document))
  | table _ entries => some entries
  | scalar s => if s.isBlank then some [] else none
  | _ => none

/-- The name of a field of a record with fields of the given names: a text, or the place of the name
among them. A place beyond the last of them is a name of its own. -/
def fieldName? (names : List String) : Document → Option String
  | atom (.int i) => if 0 ≤ i then some (names.getD i.toNat (toString i)) else none
  | key => key.text?

/-- The fields of a record by name. -/
abbrev Fields := List (String × Document)

/-- Entries as fields of the given names. No field may stand twice; other names are refused in a
`closed` record and skipped in any other. -/
def fieldsOf (names : List String) (closed : Bool) :
    List (Document × Document) → Option Fields
  | [] => some []
  | (key, d) :: rest =>
    match fieldName? names key, fieldsOf names closed rest with
    | some name, some fields =>
      if names.contains name then
        if (fields.lookup name).isSome then none else some ((name, d) :: fields)
      else if closed then none
      else some fields
    | _, _ => none

/-- The fields that a place for a record reads. A list of values gives the fields in order. -/
def fields? (names : List String) (closed : Bool) : Document → Option Fields
  | list .value items => if items.length ≤ names.length then some (names.zip items) else none
  | d => d.entries?.bind (fieldsOf names closed)

/-! ### Depth -/

mutual

/-- How deeply a document is nested. -/
def depth : Document → Nat
  | atom _ => 1
  | scalar _ => 1
  | list _ items => depthOfItems items + 1
  | table _ entries => depthOfPairs entries + 1

/-- The depth of the deepest of several documents. -/
def depthOfItems : List Document → Nat
  | [] => 0
  | d :: rest => max d.depth (depthOfItems rest)

/-- The depth of the deepest key or value of a table. -/
def depthOfPairs : List (Document × Document) → Nat
  | [] => 0
  | (key, d) :: rest => max (max key.depth d.depth) (depthOfPairs rest)

end

/-! ### Reading the fields of a record -/

/-- A field that must be there. -/
def required {α : Type} (fields : Fields) (name : String) (read : Document → Option α) : Option α :=
  (fields.lookup name).bind read

/-- A field that stands for a default when it is missing. -/
def defaulted {α : Type} (fields : Fields) (name : String) (default : α)
    (read : Document → Option α) : Option α :=
  match fields.lookup name with
  | some d => read d
  | none => some default

/-- What a place that may be empty reads. -/
def ifPresent {α : Type} (read : Document → Option α) (d : Document) : Option (Option α) :=
  match d.absent? with
  | some true => some none
  | some false => (read d).map some
  | none => none

/-- A field that may be missing or empty. -/
def optional {α : Type} (fields : Fields) (name : String) (read : Document → Option α) :
    Option (Option α) :=
  defaulted fields name none (ifPresent read)

/-- What a place for a list of such items reads. -/
def listOf {α : Type} (read : Document → Option α) (d : Document) : Option (List α) :=
  d.items?.bind fun items => items.mapM read

/-- What a place for a table of such entries reads. -/
def entriesOf {α β : Type} (readKey : Document → Option α) (read : Document → Option β)
    (d : Document) : Option (List (α × β)) :=
  d.entries?.bind fun entries => entries.mapM fun (key, d) =>
    (readKey key).bind fun k => (read d).map fun v => (k, v)

/-- What a place for a map with text keys reads; of several entries with one key the last counts. -/
def dictOf {α : Type} (read : Document → Option α) (d : Document) : Option (Dict α) :=
  (entriesOf text? read d).map Dict.ofList

end Document

end Warehouse
