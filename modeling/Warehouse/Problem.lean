/-!
What can go wrong, by cause: each cause carries what its message needs. The wording stands in one
function, and so does the exit status that the command line reports for it. An operation that changes a
state in place says in which state it leaves it, also where it fails.
-/

namespace Warehouse

/-- Why a file could not be read as text. -/
inductive FileProblem where
  | notFound
  | notDirectory
  | isDirectory
  | notUtf8
  | other (text : String)
  deriving DecidableEq, Repr

/-- The wording of a file problem. -/
def FileProblem.message : FileProblem → String
  | notFound => "No such file or directory (os error 2)"
  | notDirectory => "Not a directory (os error 20)"
  | isDirectory => "Is a directory (os error 21)"
  | notUtf8 => "stream did not contain valid UTF-8"
  | other text => text

/-- What is wrong with a configuration that could be read: a module of declarations or a dialect's
name. A place is the dotted path of a declaration. -/
inductive ConfigurationProblem where
  | unknownDialect (name : String) (supported : List String)
  | tableNameMissing (index : Nat)
  | tableNameNotUnique (index : Nat) (name : String)
  | baseNotDeclared (table base : String)
  | baseUnknown (table base : String)
  | columnNameMissing (table : String)
  | columnDeclaredTwice (place : String)
  | categoryUnknown (place category : String)
  | elementMissing (place : String)
  | entryTypesMissing (place : String)
  | fieldsMissing (place : String)
  | nestedNotAllowed (place type : String)
  | nestedPartition (place : String)
  | partMissing (column type part : String)
  deriving DecidableEq, Repr

/-- The wording of a configuration problem. -/
def ConfigurationProblem.message : ConfigurationProblem → String
  | unknownDialect name supported =>
    "Unknown dialect: '" ++ name ++ "'. Supported dialects: " ++ String.intercalate ", " supported
  | tableNameMissing index => "tables[" ++ toString index ++ "].name is required"
  | tableNameNotUnique index name =>
    "tables[" ++ toString index ++ "]: table name must be unique, got '" ++ name ++ "'"
  | baseNotDeclared table base =>
    table ++ ".extends: '" ++ base ++ "' must name a table declared earlier in the module"
  | baseUnknown table base => table ++ ".extends: unknown table '" ++ base ++ "'"
  | columnNameMissing table => table ++ ".columns: column name is required"
  | columnDeclaredTwice place => place ++ ": column declared twice"
  | categoryUnknown place category =>
    place ++ ".pii: unknown PII category '" ++ category ++ "'"
  | elementMissing place => place ++ ": array columns require 'element'"
  | entryTypesMissing place => place ++ ": map columns require 'key_type' and 'value_type'"
  | fieldsMissing place => place ++ ": row columns require at least one field"
  | nestedNotAllowed place type =>
    place ++ ": nested declarations are only allowed on array, map and row columns, not " ++ type
  | nestedPartition place => place ++ ": nested declarations cannot be partitions"
  | partMissing column type part => column ++ ": " ++ type ++ " columns require '" ++ part ++ "'"

/-- Why an operation on declarations or tables fails. -/
inductive Problem where
  | prototypeRequired (shape : String)
  | columnRequired
  | columnNameRequired (context : Option String)
  | columnNameNotUnique (name : String)
  | attributesMissing (declaration dialect : String) (missing : List String)
  | classUnsupported (declaration declarationClass dialect : String)
  | unknownColumn (table column : String)
  | policyIncomplete (policy reason : String)
  | statementUnsupported (statement dialect : String)
  | configuration (problem : ConfigurationProblem)
  | file (problem : FileProblem)
  | unreadableYaml
  | unreadableJson
  deriving DecidableEq, Repr

namespace Problem

/-- The wording of a problem. -/
def message : Problem → String
  | prototypeRequired shape => "Prototype declaration is required for table shape " ++ shape
  | columnRequired => "Prototype requires at least one column"
  | columnNameRequired none => "Column name is required"
  | columnNameRequired (some context) => "Column name is required (" ++ context ++ ")"
  | columnNameNotUnique name => "Column name must be unique: " ++ name
  | attributesMissing declaration dialect missing =>
    declaration ++ " - following attributes are required by " ++ dialect ++ ": " ++
      String.intercalate ", " missing
  | classUnsupported declaration declarationClass dialect =>
    declaration ++ " (" ++ declarationClass ++ ") is not supported by dialect " ++ dialect
  | unknownColumn table column => "Table " ++ table ++ " has no column named " ++ column
  | policyIncomplete policy reason => "Policy " ++ policy ++ " cannot be resolved: " ++ reason
  | statementUnsupported statement dialect =>
    statement ++ " is not supported by dialect " ++ dialect
  | configuration problem => "Configuration error: " ++ problem.message
  | file problem => "IO error: " ++ problem.message
  | unreadableYaml => "YAML error"
  | unreadableJson => "JSON error"

/-- The report of a problem, with the problem of the file behind it on lines of its own. -/
def report (p : Problem) : String :=
  let cause := match p with
    | file problem => "\nCaused by:\n  1: " ++ problem.message
    | _ => ""
  "Error: " ++ p.message ++ "\n" ++ cause

/-- The exit status of a command that fails with the problem. -/
def exitCode : Problem → Nat
  | configuration _ | unreadableYaml | unreadableJson => 1
  | prototypeRequired _ | columnRequired | columnNameRequired _ | columnNameNotUnique _
  | unknownColumn _ _ | policyIncomplete _ _ => 2
  | attributesMissing _ _ _ | classUnsupported _ _ _ => 3
  | statementUnsupported _ _ => 4
  | file _ => 7

end Problem

/-- What an operation that changes a state gives: it succeeds or fails, and leaves a state either way. -/
abbrev Change (σ : Type) := EStateM.Result Problem σ Unit

namespace Change

variable {σ : Type}

/-- The state that is left. -/
def left : Change σ → σ
  | .ok _ s => s
  | .error _ s => s

/-- A state that is exchanged for another one, if there is one. -/
def replace (s : σ) : Except Problem σ → Change σ
  | .ok s' => .ok () s'
  | .error p => .error p s

end Change

end Warehouse
