import Warehouse.Catalog
import Warehouse.Folder
import Warehouse.Module.Check
import Warehouse.Module.Reader
import Warehouse.Vocabulary.Reader
import Warehouse.Yaml.Composer

/-!
Loading vocabularies, dialects and modules from files of YAML text. A dialect, and a module that gives
no name of its own, are named after their file.
-/

namespace Warehouse

/-- What finds the text of the file at a path. -/
abbrev FileReader := String → Except FileProblem String

/-- The text of the file at a path. -/
def readFile (files : FileReader) (path : String) : Except Problem String :=
  (files path).mapError .file

namespace Vocabulary

/-- The vocabulary that a YAML text gives. -/
def ofYaml (text : String) : Except Problem Vocabulary :=
  match (Yaml.read? text).bind ofDocument? with
  | some v => .ok v
  | none => .error .unreadableYaml

/-- The vocabulary in a file. -/
def load (files : FileReader) (path : String) : Except Problem Vocabulary :=
  readFile files path >>= ofYaml

end Vocabulary

namespace Dialect

/-- The dialect whose vocabulary is in a file, named after the file. -/
def load (files : FileReader) (path : String) : Except Problem Dialect :=
  (Vocabulary.load files path).map (custom ((fileStem? path).getD "generic"))

end Dialect

namespace Module

/-- The module that a YAML text gives, once it is checked. -/
def ofYaml (text : String) : Except Problem Module :=
  match (Yaml.read? text).bind ofDocument? with
  | some m => m.check.map fun _ => m
  | none => .error .unreadableYaml

/-- The module in a file. -/
def load (files : FileReader) (path : String) : Except Problem Module :=
  (readFile files path >>= ofYaml).map fun m => { m with name := m.name.or (fileStem? path) }

end Module

end Warehouse
