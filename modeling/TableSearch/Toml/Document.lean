import TableSearch.Text.Quoted
import TableSearch.Toml.Value

/-! # TOML documents

A document that is being read: the values so far, and which tables may still be opened or changed.

* A table that has a header of its own, or that dotted keys have passed through in an earlier
  section, is `declared`: no header may open it.
* An inline table or list is `closed`: nothing may be added to it or to what it holds.
-/

namespace TableSearch

namespace Toml

/-- Why a document is no TOML. -/
inductive Problem where
  | invalidStatement
  | expectedLineEnd
  | expectedText (text : Text)
  | invalidCharacter (c : Char)
  | declaredTwice (key : Key)
  | overwritten
  | expectedTableEnd
  | expectedListEnd
  | closedTable (key : Key)
  | redefined (key : Key)
  | expectedEquals
  | invalidKey
  | openList
  | repeatedKey (name : Text)
  | openTable
  | badEscape
  | badHexadecimal
  | noCharacter
  | unterminated
  | illegalCharacter (c : Char)
  | invalidValue
  | invalidDate
deriving DecidableEq, Repr

namespace Problem

/-- A key in the form it has inside a message. -/
def shownKey : Key → Text
  | [name] => '(' :: name.quoted ++ [',', ')']
  | names => '(' :: Text.join [',', ' '] (names.map Text.quoted) ++ [')']

/-- The wording of a problem. -/
def message : Problem → String
  | invalidStatement => "Invalid statement"
  | expectedLineEnd => "Expected newline or end of document after a statement"
  | expectedText text => "Expected " ++ text.quoted.toString
  | invalidCharacter c => "Found invalid character " ++ (Text.quoted [c]).toString
  | declaredTwice key => "Cannot declare " ++ (shownKey key).toString ++ " twice"
  | overwritten => "Cannot overwrite a value"
  | expectedTableEnd => "Expected ']' at the end of a table declaration"
  | expectedListEnd => "Expected ']]' at the end of an array declaration"
  | closedTable key => "Cannot mutate immutable namespace " ++ (shownKey key).toString
  | redefined key => "Cannot redefine namespace " ++ (shownKey key).toString
  | expectedEquals => "Expected '=' after a key in a key/value pair"
  | invalidKey => "Invalid initial character for a key part"
  | openList => "Unclosed array"
  | repeatedKey name => "Duplicate inline table key " ++ name.quoted.toString
  | openTable => "Unclosed inline table"
  | badEscape => "Unescaped '\\' in a string"
  | badHexadecimal => "Invalid hex value"
  | noCharacter => "Escaped character is not a Unicode scalar value"
  | unterminated => "Unterminated string"
  | illegalCharacter c => "Illegal character " ++ (Text.quoted [c]).toString
  | invalidValue => "Invalid value"
  | invalidDate => "Invalid date or datetime"

end Problem

/-- Keys of declared tables and of closed values. -/
structure Marks where
  declared : List Key
  closed : List Key

namespace Marks

/-- No marks. -/
def none : Marks := ⟨[], []⟩

/-- Whether a key or one that leads to it is closed. -/
def isClosed (marks : Marks) (key : Key) : Bool :=
  !key.isEmpty && marks.closed.any (·.isPrefixOf key)

/-- Whether a table is declared. -/
def isDeclared (marks : Marks) (key : Key) : Bool :=
  marks.declared.contains key

/-- The marks with one more declared table. -/
def declare (marks : Marks) (key : Key) : Marks :=
  { marks with declared := key :: marks.declared }

/-- The marks with one more closed value. -/
def close (marks : Marks) (key : Key) : Marks :=
  { marks with closed := key :: marks.closed }

/-- The marks without those of a key and of what lies below it. -/
def forget (marks : Marks) (key : Key) : Marks :=
  ⟨marks.declared.filter (!key.isPrefixOf ·), marks.closed.filter (!key.isPrefixOf ·)⟩

end Marks

/-- A document that is being read. -/
structure Document where
  table : Table
  marks : Marks
  /-- Tables that dotted keys have passed through; they are declared when the section ends. -/
  passed : List Key
  /-- The table whose section is being read. -/
  header : Key

namespace Document

/-- The document without a line. -/
def empty : Document := ⟨[], .none, [], []⟩

/-- The document at the end of a section. -/
def endSection (document : Document) : Document :=
  { document with
    marks := document.passed.foldl Marks.declare document.marks
    passed := [] }

/-- The document with the section of a table opened. -/
def openTable (document : Document) (key : Key) : Except Problem Document :=
  let marks := document.marks
  if marks.isDeclared key || marks.isClosed key then .error (.declaredTwice key)
  else
    match Table.alter true some key document.table with
    | none => .error .overwritten
    | some table => .ok { document with table, marks := marks.declare key, header := key }

/-- The document with the section of a further table of a list opened. -/
def openListTable (document : Document) (key : Key) : Except Problem Document :=
  if document.marks.isClosed key then .error (.closedTable key)
  else
    let added : Option Table :=
      match key.getLast? with
      | none => none
      | some name => Table.alter true (Table.appendTable name) key.dropLast document.table
    match added with
    | none => .error .overwritten
    | some table =>
      .ok { document with table, marks := (document.marks.forget key).declare key, header := key }

/-- The tables that a dotted key passes through, the outermost first. -/
def passedBy (header key : Key) : List Key :=
  ((List.range key.length).drop 1).map fun length => header ++ key.take length

/-- A table with a field that it does not have yet. -/
def addField (name : Text) (value : Value) (table : Table) : Option Table :=
  if (table.lookup name).isSome then none else some (table.put name value)

/-- The document with a value under a key of the current section. -/
def assign (document : Document) (key : Key) (value : Value) : Except Problem Document :=
  let way := passedBy document.header key
  let parent := document.header ++ key.dropLast
  match way.find? document.marks.isDeclared with
  | some declared => .error (.redefined declared)
  | none =>
    if document.marks.isClosed parent then .error (.closedTable parent)
    else
      match Table.alter true (addField (key.getLastD []) value) parent document.table with
      | none => .error .overwritten
      | some table =>
        .ok { document with
          table
          passed := document.passed ++ way
          marks := if value.isCompound then document.marks.close (document.header ++ key)
            else document.marks }

end Document

/-- An inline table that is being read, and its closed values. -/
structure InlineTable where
  table : Table
  marks : Marks

namespace InlineTable

/-- The inline table without fields. -/
def empty : InlineTable := ⟨[], .none⟩

/-- Whether the tables on the way to a key can be had. -/
def reaches (inline : InlineTable) (parent : Key) : Bool :=
  (Table.alter false some parent inline.table).isSome

/-- The inline table with a value under a key. -/
def assign (inline : InlineTable) (key : Key) (value : Value) : Except Problem InlineTable :=
  let name := key.getLastD []
  if inline.marks.isClosed key then .error (.closedTable key)
  else if !inline.reaches key.dropLast then .error .overwritten
  else
    match Table.alter false (Document.addField name value) key.dropLast inline.table with
    | none => .error (.repeatedKey name)
    | some table =>
      .ok ⟨table, if value.isCompound then inline.marks.close key else inline.marks⟩

end InlineTable

end Toml

end TableSearch
