import Warehouse.Template

/-!
Privacy rules of columns that hold personal data: on which event the value is dropped, and by which
expression it is replaced when it is loaded or when its owner asks for deletion.
-/

namespace Warehouse

/-- An event in the life of a value at which a privacy rule acts. -/
inductive Lifecycle where
  | insert
  | delete
  deriving DecidableEq, Repr

namespace Lifecycle

/-- The name of the event in declaration files. -/
def key : Lifecycle → String
  | insert => "insert"
  | delete => "delete"

/-- The event that a declaration file names. -/
def ofKey? : String → Option Lifecycle
  | "insert" => some insert
  | "delete" => some delete
  | _ => none

end Lifecycle

/-- The privacy rules of a column. The transforms are templates over the quoted name of the column. -/
structure Privacy where
  name : Option String := none
  dropOn : Option Lifecycle := none
  onInsert : Option String := none
  onDelete : Option String := none
  deriving DecidableEq, Repr, Inhabited

namespace Privacy

/-- Whether the value is dropped at the event. -/
def dropsOn (p : Privacy) (e : Lifecycle) : Bool := p.dropOn == some e

/-- Whether a rule acts on deletion: the value is dropped or transformed. -/
def hasDeleteRule (p : Privacy) : Bool := p.dropsOn .delete || p.onDelete.isSome

/-- A transform applied to a column. -/
def transform (template quotedName : String) : String :=
  Template.substitutePairs template [("quoted_name", quotedName)]

/-- The expression that replaces the column when it is loaded. -/
def insertTransform? (p : Privacy) (quotedName : String) : Option String :=
  p.onInsert.map (transform · quotedName)

/-- The expression that replaces the column on deletion. -/
def deleteTransform? (p : Privacy) (quotedName : String) : Option String :=
  p.onDelete.map (transform · quotedName)

end Privacy

end Warehouse
