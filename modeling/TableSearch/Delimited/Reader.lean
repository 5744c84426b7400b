import TableSearch.Text.Basic

/-! # Reading delimited text

A delimited text consists of records on lines, and a record of fields with a delimiter between them.
A field that begins with a double quote goes on to the next quote and may hold delimiters and line
breaks; two quotes stand for one.  `Delimited.read` reads a text as its records.
-/

namespace TableSearch

namespace Delimited

/-- The most characters that a field may have. -/
def fieldLimit : Nat := 131072

/-- Why a text could not be read. -/
inductive ReadError where
  /-- A field is longer than the limit. -/
  | longField
deriving DecidableEq, Repr

namespace ReadError

/-- The wording of an error. -/
def message : ReadError → String
  | longField => "field larger than field limit (" ++ toString fieldLimit ++ ")"

end ReadError

/-- Where a reader stands. -/
inductive Place where
  /-- Before a record.  The flag says whether a carriage return has ended the last one. -/
  | recordStart (afterReturn : Bool)
  /-- Before a field that is not the first one. -/
  | fieldStart
  /-- In a field, outside quotes. -/
  | plain
  /-- In a field, inside quotes. -/
  | quoted
  /-- Behind a quote inside quotes. -/
  | quoteInside
deriving DecidableEq, Repr

/-- A record that is being read. -/
structure Draft where
  place : Place
  /-- The finished fields, the last one first. -/
  fields : List Text
  /-- The characters of the current field, the last one first. -/
  field : Text
  /-- How many characters the current field has. -/
  length : Nat
deriving DecidableEq, Repr

namespace Draft

/-- Nothing read yet. -/
def empty : Draft := ⟨.recordStart false, [], [], 0⟩

/-- The draft with one more character in the current field. -/
def push (draft : Draft) (place : Place) (c : Char) : Except ReadError Draft :=
  if fieldLimit ≤ draft.length then .error .longField
  else .ok ⟨place, draft.fields, c :: draft.field, draft.length + 1⟩

/-- The draft with the current field finished. -/
def close (draft : Draft) : Draft :=
  ⟨.fieldStart, draft.field.reverse :: draft.fields, [], 0⟩

/-- The record of a draft whose current field ends here. -/
def record (draft : Draft) : List Text :=
  draft.close.fields.reverse

end Draft

/-- Whether a character ends a line. -/
def isBreak (c : Char) : Bool :=
  c == '\n' || c == '\r'

/-- What is still to be read after a character, and the record that it ends. -/
def step (delimiter : Char) (draft : Draft) (c : Char) :
    Except ReadError (Draft × Option (List Text)) :=
  let next : Draft := ⟨.recordStart (c == '\r'), [], [], 0⟩
  let enter : Unit → Except ReadError (Draft × Option (List Text)) := fun _ =>
    if c = '"' then .ok ({ draft with place := .quoted }, none)
    else if c = delimiter then .ok (draft.close, none)
    else (draft.push .plain c).map (·, none)
  match draft.place with
  | .recordStart afterReturn =>
    if afterReturn && c == '\n' then .ok (.empty, none)
    else if isBreak c then .ok (next, some [])
    else enter ()
  | .fieldStart => if isBreak c then .ok (next, some draft.record) else enter ()
  | .plain =>
    if isBreak c then .ok (next, some draft.record)
    else if c = delimiter then .ok (draft.close, none)
    else (draft.push .plain c).map (·, none)
  | .quoted =>
    if c = '"' then .ok ({ draft with place := .quoteInside }, none)
    else (draft.push .quoted c).map (·, none)
  | .quoteInside =>
    if c = '"' then (draft.push .quoted c).map (·, none)
    else if c = delimiter then
      if isBreak c then .ok (next, some draft.close.record) else .ok (draft.close, none)
    else if isBreak c then .ok (next, some draft.record)
    else (draft.push .plain c).map (·, none)

/-- The records of a text, the first of which has been read in part. -/
def readFrom (delimiter : Char) (draft : Draft) : Text → Except ReadError (List (List Text))
  | [] =>
    match draft.place with
    | .recordStart _ => .ok []
    | _ => .ok [draft.record]
  | c :: rest => do
    let (later, record) ← step delimiter draft c
    return record.toList ++ (← readFrom delimiter later rest)

/-- The records of a text. -/
def read (delimiter : Char) (text : Text) : Except ReadError (List (List Text)) :=
  readFrom delimiter .empty text

end Delimited

end TableSearch
