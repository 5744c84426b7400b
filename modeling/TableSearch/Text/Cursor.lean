import TableSearch.Text.Basic

/-! # Cursors

A cursor stands at an offset of a text and holds the part of the text behind it.
-/

namespace TableSearch

/-- The text that has not been read yet, and its offset. -/
structure Cursor where
  rest : Text
  offset : Nat
deriving DecidableEq, Repr

namespace Cursor

/-- The cursor at the start of a text. -/
def start (text : Text) : Cursor := ⟨text, 0⟩

/-- The cursor some characters further. -/
def drop (cursor : Cursor) (count : Nat) : Cursor :=
  ⟨cursor.rest.drop count, cursor.offset + count⟩

/-- The characters from the cursor on that satisfy a condition. -/
def run (cursor : Cursor) (accepts : Char → Bool) : Text :=
  cursor.rest.takeWhile accepts

/-- The cursor behind the characters that satisfy a condition. -/
def skip (cursor : Cursor) (accepts : Char → Bool) : Cursor :=
  cursor.drop (cursor.run accepts).length

/-- The next character. -/
def next? (cursor : Cursor) : Option Char :=
  cursor.rest.head?

/-- Whether a text follows. -/
def sees (cursor : Cursor) (text : Text) : Bool :=
  text.isPrefixOf cursor.rest

end Cursor

end TableSearch
