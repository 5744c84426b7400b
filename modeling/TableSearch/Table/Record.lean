import TableSearch.Value.Basic
import TableSearch.Table.Filter

/-! # Records

The rows of a table that has been read from a source: objects with a value for every name, or plain
lists of values.  A record can be told from others by the value under one of its names.
-/

namespace TableSearch

/-- A row of values. -/
inductive Record where
  | object (fields : List (Text × Value))
  | list (items : List Value)

/-- What a value is looked up by: a name, or a place that counts from the end if it is negative. -/
inductive CellKey where
  | name (name : Text)
  | place (place : Int)
deriving DecidableEq, Repr

namespace CellKey

/-- The key in the form it has inside a message. -/
def shown : CellKey → Text
  | name label => label.quoted
  | place index => Text.ofInt index

end CellKey

namespace Record

/-- The field of an object, if it has one. -/
def field? (fields : List (Text × Value)) : CellKey → Option Value
  | .name name => fields.lookup name
  | .place _ => none

/-- The item of a list. -/
def item (items : List Value) : CellKey → Except TableError Value
  | .name _ => .error .cellName
  | .place place =>
    let index := if place < 0 then place + items.length else place
    match if index < 0 then none else items[index.toNat]? with
    | some value => .ok value
    | none => .error .cellPlace

/-- The value of a cell; an object without it has nothing there. -/
def get (key : CellKey) : Record → Except TableError Value
  | object fields => .ok ((field? fields key).getD .null)
  | list items => item items key

/-- The value that a record has to have. -/
def require (key : CellKey) : Record → Except TableError Value
  | object fields =>
    match field? fields key with
    | some value => .ok value
    | none => .error (.missingKey key.shown)
  | list items => item items key

/-- A column that reads the values under a key and writes them with a formatter.  An order of values is
reversed for the descending direction. -/
def column (head : ColumnHead) (key : CellKey) (format : Value → Text)
    (comparator : Option (Value → Value → Ordering)) : Column Record where
  head
  render := fun record => (record.get key).map format
  comparator := comparator.map fun compare row₁ row₂ reverse =>
    match row₁.get key, row₂.get key with
    | .ok value₁, .ok value₂ => CellOrder.directed reverse (compare value₁ value₂)
    | _, _ => .eq

end Record

/-- What makes a key of a row the same as another one.  Numbers are the same when they have the same
value, whatever kind they are of; something that is not a number is only the same as itself. -/
inductive KeyIdentity where
  | nothing
  | number (odd exponent : Int)
  | infinite (negative : Bool)
  | notANumber (place : Nat)
  | text (value : Text)
  | bytes (value : List UInt8)
deriving DecidableEq, Repr

namespace KeyIdentity

/-- The number `units · 2 ^ exponent` with an odd number of units. -/
def ofScaled (units exponent : Int) : Nat → KeyIdentity
  | 0 => number units exponent
  | rounds + 1 =>
    if units = 0 then number 0 0
    else if units % 2 = 0 then ofScaled (units / 2) (exponent + 1) rounds
    else number units exponent

/-- The identity of an integer. -/
def ofInt (value : Int) : KeyIdentity :=
  ofScaled value 0 (Nat.log2 value.natAbs + 1)

/-- The identity of a double. -/
def ofDouble (place : Nat) : Double → KeyIdentity
  | .nan => notANumber place
  | .infinite negative => infinite negative
  | .finite negative significand exponent =>
    ofScaled (if negative then -(significand : Int) else significand) exponent 54

/-- The identity of a value that stands at a place. -/
def ofValue (place : Nat) : Value → Except TableError KeyIdentity
  | .null => .ok nothing
  | .bool value => .ok (ofInt (if value then 1 else 0))
  | .int value => .ok (ofInt value)
  | .float value => .ok (ofDouble place value)
  | .text value => .ok (text value)
  | .bytes value => .ok (bytes value)
  | .list _ => .error (.compoundKey "list")
  | .object _ => .error (.compoundKey "dict")

end KeyIdentity

namespace Record

/-- Records told apart by their place. -/
def keyByPlace : KeyReader KeyIdentity Record := fun place _ =>
  .ok ⟨.ofInt place, Text.ofNat place⟩

/-- Records told apart by the value under a key. -/
def keyByCell (key : CellKey) : KeyReader KeyIdentity Record := fun place record => do
  let value ← record.require key
  return ⟨← KeyIdentity.ofValue place value, value.shown⟩

end Record

end TableSearch
