import Warehouse.Dialect
import Warehouse.Dict
import Warehouse.Problem
import Warehouse.Text.Casing

/-!
Catalogs of dialects by name and alias. Names are looked up without regard to case, and an alias hides
a dialect of the same name.
-/

namespace Warehouse

/-- Dialects by lower-case name, and lower-case names by lower-case alias. -/
structure Catalog where
  dialects : Dict Dialect := Dict.empty
  aliases : Dict String := Dict.empty

namespace Catalog

/-- The catalog without dialects. -/
def empty : Catalog := {}

/-- The catalog with a dialect, which replaces one of the same name. -/
def register (c : Catalog) (d : Dialect) : Catalog :=
  { c with dialects := c.dialects.insert (Text.lower d.name) d }

/-- The catalog with a dialect of this name and vocabulary. -/
def registerVocabulary (c : Catalog) (name : String) (v : Vocabulary) : Catalog :=
  c.register (.custom name v)

/-- The catalog with an alias for a name. -/
def registerAlias (c : Catalog) (name target : String) : Catalog :=
  { c with aliases := c.aliases.insert (Text.lower name) (Text.lower target) }

/-- The catalog of the built-in dialects. -/
def builtin : Catalog :=
  let dialects := [Dialect.hive, .presto, .trino, .redshift].foldl register empty
  let aliases := [("prestodb", "presto"), ("prestosql", "trino"), ("athena", "presto"), ("spark", "hive")]
  aliases.foldl (fun c (name, target) => c.registerAlias name target) dialects

/-- The dialect of a name or an alias. -/
def get? (c : Catalog) (name : String) : Option Dialect :=
  let name := Text.lower name
  c.dialects.find? ((c.aliases.find? name).getD name)

/-- Whether the name or alias is known. -/
def has (c : Catalog) (name : String) : Bool := (c.get? name).isSome

/-- The names of the dialects in order. -/
def names (c : Catalog) : List String := c.dialects.keys

/-- The dialect of a name or an alias, which must be known. -/
def require (c : Catalog) (name : String) : Except Problem Dialect :=
  match c.get? name with
  | some d => .ok d
  | none => .error (.configuration (.unknownDialect name c.names))

end Catalog

end Warehouse
