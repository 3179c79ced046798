/-!
The name of a table, derived from the name of its declaration: words that start with a capital become
lower-case words joined by underscores. A run of capitals counts as one word, and only the letters of
ASCII count as capitals.
-/

namespace Warehouse

/-- The rest of a table name, after a character that did or did not continue a run of capitals. -/
def tableNameAfter (inRun : Bool) : List Char → List Char
  | [] => []
  | c :: rest =>
    if c.isUpper && !inRun then '_' :: c.toLower :: tableNameAfter c.isUpper rest
    else c.toLower :: tableNameAfter c.isUpper rest

/-- The letters of a table name: the first character takes no underscore and starts no run. -/
def tableNameChars : List Char → List Char
  | [] => []
  | c :: rest => c.toLower :: tableNameAfter false rest

/-- The name of the table that a declaration of this name describes. -/
def tableName (declaration : String) : String :=
  String.ofList (tableNameChars declaration.toList)

end Warehouse
