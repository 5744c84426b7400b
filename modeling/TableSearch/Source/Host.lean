import TableSearch.Encoding.Name
import TableSearch.Source.FileTree

/-! # Hosts

A host is what the loading of sources relies on: the encodings with their names, the room for nested
values and the library that opens databases.
-/

namespace TableSearch

/-- What the loading of sources relies on. -/
structure Host where
  /-- The encoding with a name. -/
  encoding : Text → Except EncodingNameError Encoding
  /-- How deeply the lists and objects of a JSON text may be nested. -/
  depth : Nat
  /-- The database at a path. -/
  database : FileTree → FilePath → Except DatabaseError Database

namespace Host

/-- The database that a file is; an empty file is one without tables. -/
def openDatabase (tree : FileTree) (path : FilePath) : Except DatabaseError Database :=
  match tree.find? path with
  | some (.file (.database tables)) => .ok (.ofTables tables)
  | some (.file (.bytes (_ :: _))) => .ok .broken
  | _ => .ok (.ofTables [])

/-- The host of the command line. -/
def standard : Host where
  encoding := Encoding.ofName
  depth := 990
  database := openDatabase

end Host

end TableSearch
