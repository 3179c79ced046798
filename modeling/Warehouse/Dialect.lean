import Warehouse.Vocabulary.Builtin

/-!
Dialects of SQL. Four are built in; any other is a name and a vocabulary, and is worded in the standard
way.
-/

namespace Warehouse

/-- A dialect of SQL. -/
inductive Dialect where
  | hive
  | presto
  | trino
  | redshift
  | custom (name : String) (vocabulary : Vocabulary)

namespace Dialect

/-- The dialect's own name. -/
def name : Dialect → String
  | hive => "hive"
  | presto => "presto"
  | trino => "trino"
  | redshift => "redshift"
  | custom name _ => name

/-- The dialect's vocabulary. -/
def vocabulary : Dialect → Vocabulary
  | hive => Vocabulary.hive
  | presto => Vocabulary.presto
  | trino => Vocabulary.presto
  | redshift => Vocabulary.redshift
  | custom _ v => v

/-- What ends a statement of the dialect. -/
def terminator : Dialect → String
  | redshift => ";"
  | _ => ""

end Dialect

end Warehouse
