import TableSearch.Encoding.Basic
import TableSearch.Output.Style
import TableSearch.Toml.Writer

/-! # Hosts of settings

A host of settings is what the reading, the check and the writing of settings files rely on: the styles
that are known, the library that writes documents, and the room for nested values.
-/

namespace TableSearch

/-- What comes of asking whether a wording is that of a style. -/
inductive StyleAnswer where
  | known
  | malformed
  /-- The library of styles fails in another way. -/
  | failed (wording : String)
deriving DecidableEq, Repr

/-- What settings files rely on. -/
structure SettingsHost where
  /-- Whether a wording is that of a style. -/
  style : Text → StyleAnswer
  /-- The bytes of a document with the given sections. -/
  write : List (Text × List (Text × Toml.Setting)) → List UInt8
  /-- How much room there is for the nested values of a document. -/
  room : Nat

namespace SettingsHost

/-- Whether the styles of the command line know a wording. -/
def knownStyle (wording : Text) : StyleAnswer :=
  match Style.ofText wording with
  | .ok _ => .known
  | .error .malformed => .malformed
  | .error error => .failed error.message

/-- The host of the command line. -/
def standard : SettingsHost where
  style := knownStyle
  write sections := Text.encode (Toml.write sections)
  room := 990

end SettingsHost

end TableSearch
