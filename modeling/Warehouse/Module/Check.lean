import Warehouse.Module

/-!
The checks that a module must pass before it is used: tables and columns have names of their own, a base
is declared before what extends it, categories exist, and each type has the parts it needs. The first
fault in file order is reported, with the path of the declaration that has it.
-/

namespace Warehouse

/-- A failed check. -/
def fault {α : Type} (p : ConfigurationProblem) : Except Problem α := .error (.configuration p)

/-- Whether a text has nothing but blanks. -/
def isBlankText (s : String) : Bool := (Text.trim s).isEmpty

namespace ColumnEntry

/-- The path of a part of an entry. A part without a name is named by its type. -/
def partPath (path : String) (part : EntryHead) : String :=
  if part.name = "" then path ++ ".<" ++ part.type.label ++ ">" else path ++ "." ++ part.name

/-- Checks that the category of an entry exists. -/
def checkCategory (categories : Dict Privacy) (path : String) :
    Option PrivacyRef → Except Problem Unit
  | some (.category name) =>
    if categories.contains name then .ok () else fault (.categoryUnknown path name)
  | _ => .ok ()

/-- Checks that an entry has the parts that its type needs, and none if it needs none. -/
def checkParts (path : String) (t : DataType) (element keyType valueType fields : Bool) :
    Except Problem Unit :=
  match t with
  | .array => if element then .ok () else fault (.elementMissing path)
  | .map => if keyType && valueType then .ok () else fault (.entryTypesMissing path)
  | .row => if fields then .ok () else fault (.fieldsMissing path)
  | t =>
    if element || keyType || valueType || fields then fault (.nestedNotAllowed path t.label)
    else .ok ()

mutual

/-- Checks an entry of the given path and all its parts. -/
def check (categories : Dict Privacy) (path : String) : ColumnEntry → Except Problem Unit
  | ⟨h, element, keyType, valueType, fields⟩ =>
    checkCategory categories path h.privacy >>= fun _ =>
      checkParts path h.type element.isSome keyType.isSome valueType.isSome (!fields.isEmpty) >>=
          fun _ =>
        checkPart categories path element >>= fun _ =>
          checkPart categories path keyType >>= fun _ =>
            checkPart categories path valueType >>= fun _ => checkFields categories path fields

/-- Checks a part of the entry of the given path. -/
def checkPart (categories : Dict Privacy) (path : String) :
    Option ColumnEntry → Except Problem Unit
  | none => .ok ()
  | some part =>
    if part.partition then fault (.nestedPartition path)
    else check categories (partPath path part.toEntryHead) part

/-- Checks the fields of the entry of the given path. -/
def checkFields (categories : Dict Privacy) (path : String) :
    List ColumnEntry → Except Problem Unit
  | [] => .ok ()
  | part :: rest =>
    if part.partition then fault (.nestedPartition path)
    else
      check categories (partPath path part.toEntryHead) part >>= fun _ =>
        checkFields categories path rest

end

end ColumnEntry

namespace TableEntry

/-- Checks the columns of a table, given the names already seen. -/
def checkColumns (categories : Dict Privacy) (table : String) (seen : List String) :
    List ColumnEntry → Except Problem Unit
  | [] => .ok ()
  | c :: rest =>
    let path := table ++ "." ++ c.name
    if isBlankText c.name then fault (.columnNameMissing table)
    else if seen.contains c.name then fault (.columnDeclaredTwice path)
    else
      c.check categories path >>= fun _ => checkColumns categories table (c.name :: seen) rest

/-- Checks that the base of a table is declared before it. -/
def checkBase (t : TableEntry) (declared : List String) : Except Problem Unit :=
  match t.base with
  | some base =>
    if declared.contains base then .ok () else fault (.baseNotDeclared t.name base)
  | none => .ok ()

end TableEntry

namespace Module

/-- Checks tables from the one of the given number on, given the names declared before. -/
def checkTables (categories : Dict Privacy) (declared : List String) (index : Nat) :
    List TableEntry → Except Problem Unit
  | [] => .ok ()
  | t :: rest =>
    if isBlankText t.name then fault (.tableNameMissing index)
    else if declared.contains t.name then fault (.tableNameNotUnique index t.name)
    else
      t.checkBase declared >>= fun _ =>
        TableEntry.checkColumns categories t.name [] t.columns >>= fun _ =>
          checkTables categories (t.name :: declared) (index + 1) rest

/-- Checks a module. -/
def check (m : Module) : Except Problem Unit := checkTables m.privacy [] 0 m.tables

end Module

end Warehouse
