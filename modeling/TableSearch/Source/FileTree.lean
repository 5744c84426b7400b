import TableSearch.Encoding.Basic
import TableSearch.Source.FilePath
import TableSearch.Source.Database

/-! # File trees

A file tree holds the files that the program can see, by their absolute paths, and says which
directory it works in and which one is home.
-/

namespace TableSearch

/-- What a file holds. -/
inductive FileContent where
  | bytes (content : List UInt8)
  | database (tables : List StoredTable)

/-- What stands at a path. -/
inductive FileEntry where
  | file (content : FileContent)
  | directory

/-- The files that the program can see. -/
structure FileTree where
  workingDirectory : FilePath
  home : FilePath
  /-- The entries with the names that lead to them from the root. -/
  entries : List (List Text × FileEntry)

/-- Why a file could not be found, opened or written. -/
inductive FileError where
  | nameTooLong (path : FilePath)
  | exists (path : FilePath)
  | notADirectory (path : FilePath)
  | isADirectory (path : FilePath)
deriving DecidableEq, Repr

namespace FileError

/-- The wording of an error. -/
def message : FileError → String
  | .nameTooLong path => "[Errno 36] File name too long: " ++ path.text.quoted.toString
  | .exists path => "[Errno 17] File exists: " ++ path.text.quoted.toString
  | .notADirectory path => "[Errno 20] Not a directory: " ++ path.text.quoted.toString
  | .isADirectory path => "[Errno 21] Is a directory: " ++ path.text.quoted.toString

end FileError

namespace FileContent

/-- The file of a database; one without tables is an empty file. -/
def ofTables : List StoredTable → FileContent
  | [] => bytes []
  | tables => database tables

/-- The bytes that a database begins with. -/
def databaseMark : List UInt8 :=
  "SQLite format 3".toUTF8.toList ++ [0]

/-- The bytes of a file; of a database only those that tell its kind. -/
def toBytes : FileContent → List UInt8
  | bytes content => content
  | database _ => databaseMark

end FileContent

namespace FileTree

/-- What stands at absolute names.  A directory exists if anything is in it. -/
def entry? (tree : FileTree) (parts : List Text) : Option FileEntry :=
  match tree.entries.find? (·.1 == parts) with
  | some (_, entry) => some entry
  | none =>
    if parts.isPrefixOf tree.workingDirectory.parts || parts.isPrefixOf tree.home.parts ||
        tree.entries.any (parts.isPrefixOf ·.1) then
      some .directory
    else none

/-- What stands at the end of a walk: every step has to start in a directory. -/
def walk? (tree : FileTree) (here : List Text) : List Text → Option FileEntry
  | [] => tree.entry? here
  | part :: rest =>
    match tree.entry? here with
    | some .directory =>
      tree.walk? (if part = FilePath.up then here.dropLast else here ++ [part]) rest
    | _ => none

/-- What stands at a path. -/
def find? (tree : FileTree) (path : FilePath) : Option FileEntry :=
  tree.walk? [] (path.absoluteParts tree.workingDirectory)

/-- How many bytes a name may have. -/
def nameLimit : Nat := 255

/-- How many bytes a path may have. -/
def pathLimit : Nat := 4095

/-- Whether a walk comes to a name that is too long to be looked up. -/
def meetsLongName (tree : FileTree) (here : List Text) : List Text → Bool
  | [] => false
  | part :: rest =>
    match tree.entry? here with
    | some .directory =>
      nameLimit < part.encode.length ||
        tree.meetsLongName (if part = FilePath.up then here.dropLast else here ++ [part]) rest
    | _ => false

/-- Whether a path is too long to be looked up.  Nothing is looked up under a name with a null
character. -/
def isTooLong (tree : FileTree) (path : FilePath) : Bool :=
  !path.text.contains '\x00' &&
    (pathLimit < path.text.encode.length ||
      tree.meetsLongName [] (path.absoluteParts tree.workingDirectory))

/-- The absolute form of a path. -/
def resolve (tree : FileTree) (path : FilePath) : FilePath :=
  path.resolve tree.workingDirectory

/-- Why a directory cannot be made, if it cannot.  The directories that lead to it are made as well:
`made` are the names down to the directory that is looked at. -/
def directoryError? (tree : FileTree) (directory : List Text) : Option FileError :=
  let above := (List.range directory.length).map fun count => directory.take count
  let isFile (parts : List Text) : Bool :=
    match tree.entry? parts with
    | some (.file _) => true
    | _ => false
  if above.any isFile then some (.notADirectory ⟨true, directory⟩)
  else if isFile directory then some (.exists ⟨true, directory⟩)
  else none

/-- The tree with a file written at an absolute path; missing directories are made. -/
def write (tree : FileTree) (path : FilePath) (content : List UInt8) : Except FileError FileTree :=
  match tree.directoryError? path.parent.parts, tree.entry? path.parts with
  | some error, _ => .error error
  | none, some .directory => .error (.isADirectory path)
  | none, _ =>
    .ok { tree with
      entries := tree.entries.filter (·.1 != path.parts) ++
        [(path.parts, .file (.bytes content))] }

/-- The absolute places at which somebody looks who walks along a path. -/
def placesOn (tree : FileTree) (path : FilePath) : List (List Text) :=
  let parts := path.absoluteParts tree.workingDirectory
  (List.range (parts.length + 1)).map fun count => FilePath.climb (parts.take count)

/-- The bytes of the file at absolute names. -/
def bytes? (tree : FileTree) (parts : List Text) : Option (List UInt8) :=
  match tree.entry? parts with
  | some (.file content) => some content.toBytes
  | _ => none

/-- The files of a tree that another one does not have, or has with other bytes. -/
def changesFrom (after before : FileTree) : List (List Text × List UInt8) :=
  after.entries.filterMap fun (parts, entry) =>
    match entry with
    | .file (.bytes content) =>
      if before.bytes? parts = some content then none else some (parts, content)
    | _ => none

end FileTree

end TableSearch
