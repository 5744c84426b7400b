import TableSearch.Number.Double

/-! # TOML values

The values of a TOML document.  A table is a list of fields in the order in which they appear.
-/

namespace TableSearch

namespace Toml

/-- What a written moment consists of. -/
inductive MomentKind where
  | dateTime
  | date
  | time
deriving DecidableEq, Repr

/-- A value of a document. -/
inductive Value where
  | text (value : Text)
  | int (value : Int)
  | float (value : Double)
  | bool (value : Bool)
  /-- A date or a time, as it is written. -/
  | moment (kind : MomentKind) (written : Text)
  | list (items : List Value)
  | table (fields : List (Text × Value))
deriving Inhabited

/-- The fields of a table. -/
abbrev Table := List (Text × Value)

/-- The names that lead to a value. -/
abbrev Key := List Text

namespace Value

/-- Whether a value holds others. -/
def isCompound : Value → Bool
  | list _ | table _ => true
  | _ => false

end Value

namespace Table

/-- A table with one field replaced, or added at the end. -/
def put (table : Table) (name : Text) (value : Value) : Table :=
  if (table.lookup name).isSome then
    table.map fun field => if field.1 = name then (name, value) else field
  else table ++ [(name, value)]

/-- A table with the table under a key changed; the tables on the way are made where they are
missing.  With `throughLists` a list of tables stands for its last one.  None if something else
stands in the way, or if the change is refused. -/
def alter (throughLists : Bool) (change : Table → Option Table) : Key → Table → Option Table
  | [], table => change table
  | name :: rest, table =>
    match table.lookup name with
    | none => (alter throughLists change rest []).map fun inner => table.put name (.table inner)
    | some (.table inner) =>
      (alter throughLists change rest inner).map fun inner => table.put name (.table inner)
    | some (.list items) =>
      match throughLists, items.getLast? with
      | true, some (.table inner) =>
        (alter throughLists change rest inner).map fun inner =>
          table.put name (.list (items.dropLast ++ [.table inner]))
      | _, _ => none
    | some _ => none

/-- A table with an empty table added to the list under a name. -/
def appendTable (name : Text) (table : Table) : Option Table :=
  match table.lookup name with
  | none => some (table.put name (.list [.table []]))
  | some (.list items) => some (table.put name (.list (items ++ [.table []])))
  | some _ => none

end Table

end Toml

end TableSearch
