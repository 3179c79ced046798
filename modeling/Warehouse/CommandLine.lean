import Warehouse.CommandLine.Invocation
import Warehouse.Loading
import Warehouse.Markdown
import Warehouse.Statement.Create

/-!
The commands: documentation of modules in Markdown, the statements that create their tables, and the
list of dialects. A command first finds its dialect, then loads every module, and only then binds them;
it writes all of its answer or none of it.
-/

namespace Warehouse.CommandLine

/-- What a command leaves: an exit status, and its answer, or the report of what went wrong. -/
structure Outcome where
  status : Nat
  output : String := ""
  report : Option String := none
  deriving DecidableEq, Repr

/-- How the files that a command line names are loaded, by their paths. -/
structure Loader where
  loadVocabulary : String → Except Problem Vocabulary
  loadModule : String → Except Problem Module

/-- What loads YAML files. -/
def Loader.ofFiles (files : FileReader) : Loader where
  loadVocabulary := Vocabulary.load files
  loadModule := Module.load files

/-- The dialect of a name, where a file may give the vocabulary for that name. An alias of the same name
still counts first. -/
def findDialect (load : String → Except Problem Vocabulary) (name : String)
    (vocabulary : Option String) : Except Problem Dialect :=
  match vocabulary with
  | none => Catalog.builtin.require name
  | some path =>
    load path >>= fun v => (Catalog.builtin.registerVocabulary (Text.lower name) v).require name

/-- Whether the file at a path holds a module for people. Names that start with two underscores are
kept for other uses. -/
def isListed (path : String) : Bool := !("__".isPrefixOf ((fileStem? path).getD ""))

/-- The modules to show, in order. -/
def loadListed (loader : Loader) (paths : List String) : Except Problem (List Module) :=
  (paths.filter isListed).mapM loader.loadModule

/-- The documented form of a module in a dialect. -/
def document (d : Dialect) (m : Module) : Except Problem Markdown.Section :=
  (m.bindAll d).map fun tables => ⟨m.schema, m.description, tables⟩

/-- The statements that create the tables of a module. -/
def createAll (d : Dialect) (m : Module) : Except Problem (List String) :=
  (m.bindAll d).map fun tables => tables.map (·.createTable {})

namespace Request

/-- The text that answers a request. -/
def answer (loader : Loader) : Request → Except Problem String
  | markdown dialect modules separate vocabulary => do
    let d ← findDialect loader.loadVocabulary dialect vocabulary
    let ms ← loadListed loader modules
    let sections ← ms.mapM (document d)
    return Markdown.document sections separate
  | ddl dialect modules schema vocabulary => do
    let d ← findDialect loader.loadVocabulary dialect vocabulary
    let ms ← loadListed loader modules
    let statements ← ms.mapM fun m => createAll d { m with name := schema.or m.name }
    return String.intercalate "\n\n" statements.flatten
  | dialects => return String.intercalate "\n" Catalog.builtin.names

/-- The files that may be read to answer a request, in order. -/
def paths : Request → List String
  | markdown _ modules _ vocabulary => vocabulary.toList ++ modules.filter isListed
  | ddl _ modules _ vocabulary => vocabulary.toList ++ modules.filter isListed
  | dialects => []

/-- What a request leaves. -/
def run (loader : Loader) (r : Request) : Outcome :=
  match r.answer loader with
  | .ok text => { status := 0, output := text ++ "\n" }
  | .error p => { status := p.exitCode, report := some p.report }

end Request

/-- The text that tells how to call the program. -/
def helpText : String :=
  String.intercalate "\n"
    ["Render warehouse table declarations as documentation and SQL",
      "",
      "Usage: tabledef [OPTIONS] <COMMAND>",
      "",
      "Commands:",
      "  markdown <DIALECT> <MODULES>... [--ns] [--vocabulary <FILE>]",
      "  ddl <DIALECT> <MODULES>... [--schema <NAME>] [--vocabulary <FILE>]",
      "  dialects",
      "  help [COMMAND]",
      "",
      "Options:",
      "  --log-format <LOG_FORMAT>",
      "  --verbosity <VERBOSITY>",
      "  -h, --help",
      "  -V, --version"]

/-- The name and the version of the program. -/
def versionText : String := "tabledef 0.1.0"

/-- The exit status of a command line that is not understood. -/
def misuseStatus : Nat := 2

namespace Invocation

/-- What an invocation leaves. -/
def run (loader : Loader) : Invocation → Outcome
  | request r => r.run loader
  | help => { status := 0, output := helpText ++ "\n" }
  | version => { status := 0, output := versionText ++ "\n" }

/-- The files that may be read for an invocation, in order. -/
def paths : Invocation → List String
  | request r => r.paths
  | help | version => []

end Invocation

end Warehouse.CommandLine
