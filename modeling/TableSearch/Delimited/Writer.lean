import TableSearch.Text.Basic

/-! # Writing delimited text

Records on lines, with commas between the fields.  A field is quoted if it holds a comma, a quote or
a line feed; so is an empty field that is the only one of its record.
-/

namespace TableSearch

namespace Delimited

/-- Whether a field has to be quoted. -/
def needsQuotes (field : Text) : Bool :=
  field.any fun c => c == ',' || c == '"' || c == '\n'

/-- A field between quotes; a quote in it is doubled. -/
def quote (field : Text) : Text :=
  '"' :: field.flatMap (fun c => if c = '"' then ['"', '"'] else [c]) ++ ['"']

/-- A field as it is written. -/
def writeField (field : Text) : Text :=
  if needsQuotes field then quote field else field

/-- A record as a line. -/
def writeRecord (fields : List Text) : Text :=
  (match fields with
    | [[]] => quote []
    | _ => Text.join [','] (fields.map writeField)) ++ ['\n']

/-- Records as lines. -/
def write (records : List (List Text)) : Text :=
  records.flatMap writeRecord

end Delimited

end TableSearch
