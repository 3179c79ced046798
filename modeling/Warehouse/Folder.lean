import Warehouse.Problem

/-!
Folders of files, held in memory. A path is walked name by name: a missing name, a file in the place of
a folder, a folder in the place of a file and text that is no UTF-8 are told apart.
-/

namespace Warehouse

/-- The names in a path, between its slashes. -/
def pathNames : List Char → List (List Char)
  | [] => [[]]
  | c :: rest =>
    if c = '/' then [] :: pathNames rest
    else
      match pathNames rest with
      | [] => [[c]]
      | name :: more => (c :: name) :: more

/-- The last name in a path, whatever slashes and dots follow it. A path that ends in the folder above
has none. -/
def lastName? (path : String) : Option (List Char) :=
  ((pathNames path.toList).filter fun name => name ≠ [] && name ≠ ['.']).getLast?.filter
    (· ≠ ['.', '.'])

/-- A name up to its last dot. A dot in front belongs to the name. -/
def stemChars (name : List Char) : List Char :=
  match name.reverse.dropWhile (· != '.') with
  | _ :: c :: before => (c :: before).reverse
  | _ => name

/-- The last name in a path, without its extension. -/
def fileStem? (path : String) : Option String :=
  (lastName? path).map fun name => String.ofList (stemChars name)

/-- What a name in a folder stands for. -/
inductive FolderEntry where
  | file (bytes : ByteArray)
  | folder (entries : List (String × FolderEntry))

/-- A folder: entries by name. -/
abbrev Folder := List (String × FolderEntry)

namespace FolderEntry

/-- What a walk along the names of a path ends at. The folders above are given, the innermost first;
above them lie folders without entries. -/
def walk : List FolderEntry → FolderEntry → List String → Except FileProblem FolderEntry
  | _, here, [] => .ok here
  | _, file _, _ :: _ => .error .notDirectory
  | above, folder entries, name :: rest =>
    if name = "" || name = "." then walk above (folder entries) rest
    else if name = ".." then
      match above with
      | [] => walk [] (folder []) rest
      | outer :: more => walk more outer rest
    else
      match entries.lookup name with
      | some entry => walk (folder entries :: above) entry rest
      | none => .error .notFound

/-- The text of a file. -/
def text : FolderEntry → Except FileProblem String
  | folder _ => .error .isDirectory
  | file bytes =>
    match String.fromUTF8? bytes with
    | some text => .ok text
    | none => .error .notUtf8

end FolderEntry

namespace Folder

/-- The text of the file at a path. A path from the root of all folders leads to none of these. -/
def read (f : Folder) (path : String) : Except FileProblem String :=
  if path = "" then .error .notFound
  else
    let start : Folder := if path.toList.head? = some '/' then [] else f
    FolderEntry.walk [] (.folder start) ((pathNames path.toList).map String.ofList) >>= (·.text)

/-- Puts an entry at the place that the names lead to, making the folders on the way. -/
def place (entry : FolderEntry) : List String → Folder → Folder
  | [], f => f
  | [name], f => (name, entry) :: f.filter (·.1 != name)
  | name :: rest, f =>
    let inner : Folder := match f.lookup name with
      | some (.folder entries) => entries
      | _ => []
    (name, .folder (place entry rest inner)) :: f.filter (·.1 != name)

/-- The folder that holds each entry at its path. -/
def ofPaths (entries : List (String × FolderEntry)) : Folder :=
  entries.foldl
    (fun f (path, entry) => place entry ((pathNames path.toList).map String.ofList) f) []

end Folder

end Warehouse
