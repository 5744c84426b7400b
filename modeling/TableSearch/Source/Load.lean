import TableSearch.Delimited.Guess
import TableSearch.Delimited.Reader
import TableSearch.Json.Reader
import TableSearch.Source.Host

/-! # Loading a source

`FileTree.load` reads the sheet that a file holds.  A file is a database if its suffix or its
content says so; otherwise the suffix tells JSON from delimited text.
-/

namespace TableSearch

/-- How a source is read. -/
structure LoadOptions where
  /-- The table of a database. -/
  table : Option Text
  /-- The delimiter of delimited text; without one it is guessed. -/
  delimiter : Text
  /-- The name of the encoding. -/
  encoding : Text

/-- Why a file is no source of rows. -/
inductive SourceProblem where
  | isDirectory
  | tableWithoutDatabase
  /-- There is no single table that could be meant. -/
  | chooseTable (available : List Text)
  | noTable (name : Text)
deriving DecidableEq, Repr

namespace SourceProblem

/-- The wording of a problem. -/
def message : SourceProblem → String
  | isDirectory => "is a directory"
  | tableWithoutDatabase => "--table only applies to SQLite databases"
  | chooseTable available =>
    "choose a table with --table (available: " ++
      (if available.isEmpty then "none" else (Text.join ", ".toList available).toString) ++ ")"
  | noTable name => "no table named " ++ name.quoted.toString

end SourceProblem

/-- Why the content of a source could not be read. -/
inductive ContentError where
  | bytes (error : DecodeError)
  | delimited (error : Delimited.ReadError)
  | json (error : Json.ReadError) (text : Text)
  | notRows
  | database (wording : String)

namespace ContentError

/-- The wording of an error. -/
def message : ContentError → String
  | bytes error => error.message
  | delimited error => error.message
  | json error text => error.message text
  | notRows => "expected a list of objects"
  | database wording => wording

end ContentError

/-- Why a source could not be loaded. -/
inductive LoadError where
  | notFound (path : FilePath)
  | unsupported (path : FilePath) (problem : SourceProblem)
  | unreadable (path : FilePath) (error : ContentError)
  | file (error : FileError)
  | encoding (error : EncodingNameError)
  /-- The bytes are refused, but not for some of them. -/
  | refused (wording : String)
  /-- The delimiter is not one character. -/
  | delimiterLength
  /-- A number of the content has more digits than can be read. -/
  | longInteger (digits : Nat)
  /-- The values of the content are nested too deeply. -/
  | tooDeep (isObject : Bool)
  | database (error : DatabaseError)

namespace LoadError

/-- The wording of an error. -/
def message : LoadError → String
  | notFound path => "Table source not found: " ++ path.text.toString
  | unsupported path problem =>
    "Unsupported table source " ++ path.text.toString ++ ": " ++ problem.message
  | unreadable path error =>
    "Cannot read table from " ++ path.text.toString ++ ": " ++ error.message
  | file error => error.message
  | encoding error => error.message
  | refused wording => wording
  | delimiterLength => "\"delimiter\" must be a 1-character string"
  | longInteger digits => Json.ReadError.message [] (.longInteger digits)
  | tooDeep isObject => Json.ReadError.message [] (.tooDeep isObject)
  | database error => error.message

/-- What becomes of bytes that are no text. -/
def ofDecode (path : FilePath) : DecodeError → LoadError
  | .refused wording => refused wording
  | error => unreadable path (.bytes error)

/-- What becomes of a text that is no JSON. -/
def ofJson (path : FilePath) (text : Text) : Json.ReadError → LoadError
  | .longInteger digits => longInteger digits
  | .tooDeep isObject => tooDeep isObject
  | error => unreadable path (.json error text)

/-- What becomes of an error of an open database. -/
def ofDatabase (path : FilePath) : DatabaseError → LoadError
  | .library wording => unreadable path (.database wording)
  | error => database error

end LoadError

namespace Source

/-! ## Delimited text -/

/-- The first free one of the names that a base and a number make, from a number on. -/
def freeName (taken : List Text) (base : Text) (number : Nat) : Nat → Text
  | 0 => base ++ '_' :: Text.ofNat number
  | rounds + 1 =>
    let name := base ++ '_' :: Text.ofNat number
    if taken.contains name then freeName taken base (number + 1) rounds else name

/-- The names of the columns that a header gives: without blanks around them, never empty and never
the same. -/
def columnNames (header : List Text) : List Text :=
  header.foldl
    (fun names field =>
      let trimmed := field.trim
      let base :=
        if trimmed.isEmpty then "column".toList ++ Text.ofNat (names.length + 1) else trimmed
      names ++ [if names.contains base then freeName names base 2 names.length else base])
    []

/-- The row that a record is: short records are filled up with empty cells, and fields beyond the
last column are dropped. -/
def rowOf (names : List Text) (record : List Text) : List (Text × Value) :=
  Value.fieldsOf
    (names.zip ((record ++ List.replicate (names.length - record.length) []).map .text))

/-- The sheet that records are.  The first one is the header; empty ones are skipped. -/
def ofRecords (name : Text) : List (List Text) → Sheet
  | [] => ⟨name, [], []⟩
  | header :: records =>
    let names := columnNames header
    ⟨name, names, (records.filter (!·.isEmpty)).map (rowOf names)⟩

/-- The delimiter of files with a suffix. -/
def suffixDelimiter (suffix : Text) : Char :=
  if suffix.lower = ".tsv".toList || suffix.lower = ".tab".toList then '\t' else ','

/-- How many characters of a text are looked at to guess its delimiter. -/
def sampleLength : Nat := 65536

/-- The sheet that a delimited text is. -/
def ofDelimited (path : FilePath) (options : LoadOptions) (encoding : Encoding)
    (bytes : List UInt8) : Except LoadError Sheet := do
  if 1 < options.delimiter.length then throw .delimiterLength
  let text ← (encoding.decodeInPieces bytes).mapError (.ofDecode path)
  let delimiter :=
    options.delimiter.head?.getD
      ((Delimited.guess? (text.take sampleLength)).getD (suffixDelimiter path.suffix))
  match Delimited.read delimiter text with
  | .ok records => return ofRecords path.stem records
  | .error error => throw (.unreadable path (.delimited error))

/-! ## JSON -/

/-- The rows of a list of objects. -/
def objects? (items : List Value) : Option (List (List (Text × Value))) :=
  items.mapM fun
    | .object fields => some fields
    | _ => none

/-- The sheet that a value is: a list of objects, or an object that has one under `rows`.  Columns
come in the order in which their names first occur; those that such an object lists under `columns`
go before them. -/
def ofValue? (name : Text) (value : Value) : Option Sheet :=
  let (columns, rows) : List Text × Value :=
    match value with
    | .object fields =>
      (match fields.lookup "columns".toList with
        | some (.list names) => names.map Value.plain
        | _ => [],
        (fields.lookup "rows".toList).getD .null)
    | value => ([], value)
  match rows with
  | .list items =>
    (objects? items).map fun rows =>
      ⟨name,
        (rows.flatMap fun row => row.map Prod.fst).foldl
          (fun names key => if names.contains key then names else names ++ [key]) columns,
        rows⟩
  | _ => none

/-- The sheet that a value has to be. -/
def ofValue (path : FilePath) (value : Value) : Except LoadError Sheet :=
  match ofValue? path.stem value with
  | some sheet => .ok sheet
  | none => .error (.unreadable path .notRows)

/-- The sheet that a JSON text is. -/
def ofJson (host : Host) (path : FilePath) (encoding : Encoding) (bytes : List UInt8) :
    Except LoadError Sheet := do
  let text ← (encoding.decode bytes).mapError (.ofDecode path)
  let text := text.unifyLineBreaks
  let value ← (Json.read host.depth text).mapError (.ofJson path text)
  ofValue path value

/-! ## Databases -/

/-- The suffixes of databases. -/
def databaseSuffixes : List Text :=
  [".db".toList, ".sqlite".toList, ".sqlite3".toList]

/-- Whether a file is read as a database. -/
def isDatabase (path : FilePath) (content : FileContent) : Bool :=
  databaseSuffixes.contains path.suffix.lower || FileContent.databaseMark.isPrefixOf content.toBytes

/-- The name of the table that is meant.  Without a name the database has to have one table. -/
def meantTable (path : FilePath) : Option Text → List Text → Except LoadError Text
  | some name, _ | none, [name] => .ok name
  | none, names => .error (.unsupported path (.chooseTable names))

/-- The sheet that a table with a name has to be. -/
def ofTable (path : FilePath) (name : Text) : Option Sheet → Except LoadError Sheet
  | some sheet => .ok { sheet with name }
  | none => .error (.unsupported path (.noTable name))

/-- The sheet that a table of a database is. -/
def ofDatabase (path : FilePath) (table : Option Text) (database : Database) :
    Except LoadError Sheet := do
  let names ← database.tableNames.mapError (.ofDatabase path)
  let name ← meantTable path table names
  let found ← (database.sheet? name).mapError (.ofDatabase path)
  ofTable path name found

end Source

/-! ## Files -/

namespace FileTree

/-- The sheet that a file is, whose content is at a path. -/
def loadFile (tree : FileTree) (host : Host) (path : FilePath) (options : LoadOptions)
    (content : FileContent) : Except LoadError Sheet := do
  if Source.isDatabase path content then
    let database ← (host.database tree path).mapError .database
    Source.ofDatabase path options.table database
  else if options.table.isSome then throw (.unsupported path .tableWithoutDatabase)
  else
    let encoding ← (host.encoding options.encoding).mapError .encoding
    if path.suffix.lower = ".json".toList then
      Source.ofJson host path encoding content.toBytes
    else Source.ofDelimited path options encoding content.toBytes

/-- The sheet that the file at a path holds. -/
def load (tree : FileTree) (host : Host) (path : FilePath) (options : LoadOptions) :
    Except LoadError Sheet :=
  if tree.isTooLong path then .error (.file (.nameTooLong path))
  else
    match tree.find? path with
    | none => .error (.notFound path)
    | some .directory => .error (.unsupported path .isDirectory)
    | some (.file content) => tree.loadFile host path options content

end FileTree

end TableSearch
