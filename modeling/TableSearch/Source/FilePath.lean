import TableSearch.Text.Case

/-! # File paths

A path names a file by the names of the directories that lead to it.  `FilePath.ofText` reads a path
with slashes, and `FilePath.resolve` makes it absolute and without steps upwards.
-/

namespace TableSearch

/-- A path: from the root or from the working directory. -/
structure FilePath where
  isAbsolute : Bool
  /-- The names on the way, without empty ones and those that stay in place. -/
  parts : List Text
deriving DecidableEq, Repr

namespace FilePath

/-- The name of the step upwards. -/
def up : Text := ['.', '.']

/-- The path that a text writes. -/
def ofText (text : Text) : FilePath :=
  ⟨text.head? == some '/', (text.splitOn '/').filter fun part => !part.isEmpty && part != ['.']⟩

/-- The text of a path. -/
def text (path : FilePath) : Text :=
  let joined := Text.join ['/'] path.parts
  if path.isAbsolute then '/' :: joined else if joined.isEmpty then ['.'] else joined

/-- The last name. -/
def name (path : FilePath) : Text :=
  path.parts.getLast?.getD []

/-- Where the suffix of a name begins: at its last point, unless the name begins or ends with it. -/
def suffixStart (name : Text) : Nat :=
  let fromEnd := name.reverse.takeWhile (· != '.')
  let place := name.length - fromEnd.length - 1
  if fromEnd.isEmpty || place = 0 then name.length else place

/-- The end of the name from its last point on. -/
def suffix (path : FilePath) : Text :=
  path.name.drop (suffixStart path.name)

/-- The name without its suffix. -/
def stem (path : FilePath) : Text :=
  path.name.take (suffixStart path.name)

/-- The path with a tilde at its start replaced by the home directory; nothing if the tilde names
somebody else's. -/
def expandHome? (path home : FilePath) : Option FilePath :=
  match path.isAbsolute, path.parts with
  | false, ('~' :: user) :: rest =>
    if user.isEmpty then some ⟨home.isAbsolute, home.parts ++ rest⟩ else none
  | _, _ => some path

/-- Names without steps upwards: each of them takes back the step before it. -/
def climb (parts : List Text) : List Text :=
  parts.foldl (fun done part => if part = up then done.dropLast else done ++ [part]) []

/-- The names from the root. -/
def absoluteParts (path workingDirectory : FilePath) : List Text :=
  if path.isAbsolute then path.parts else workingDirectory.parts ++ path.parts

/-- The absolute path without steps upwards. -/
def resolve (path workingDirectory : FilePath) : FilePath :=
  ⟨true, climb (path.absoluteParts workingDirectory)⟩

/-- The path of the directory that a path is in. -/
def parent (path : FilePath) : FilePath :=
  ⟨path.isAbsolute, path.parts.dropLast⟩

end FilePath

end TableSearch
