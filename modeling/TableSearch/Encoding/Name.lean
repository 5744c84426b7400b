import TableSearch.Encoding.Basic

/-! # Names of encodings

An encoding has several names, and each of them may be written with other separators and in either
letter case.  `Encoding.ofName` is the encoding with a name.
-/

namespace TableSearch

/-- Why a name is not that of a text encoding. -/
inductive EncodingNameError where
  | unknown (name : Text)
  /-- What has the name does not read bytes as text. -/
  | notText (name : Text)
  | nullCharacter
deriving DecidableEq, Repr

namespace EncodingNameError

/-- The wording of an error. -/
def message : EncodingNameError → String
  | unknown name => "unknown encoding: " ++ name.toString
  | notText name =>
    "'" ++ Text.toString (name.take 400) ++
      "' is not a text encoding; use codecs.open() to handle arbitrary codecs"
  | nullCharacter => "embedded null character"

end EncodingNameError

namespace Encoding

/-- Whether a character stands in a name; any other one separates. -/
def isNameChar (c : Char) : Bool :=
  isDigit c || ('a' ≤ c && c ≤ 'z') || ('A' ≤ c && c ≤ 'Z') || c == '.'

/-- A name in lower case with one underscore between its words. -/
def normalName (name : Text) : Text :=
  let separated : Text := name.map fun c => if isNameChar c then c.toLower else '_'
  Text.join ['_'] ((separated.splitOn '_').filter (!·.isEmpty))

/-- An entry of the list of encodings: its own name and other ones. -/
structure NameEntry (α : Type) where
  value : α
  name : String
  aliases : List String

/-- Whether an entry has a name.  The points of another name may be written as underscores. -/
def NameEntry.isNamed {α : Type} (entry : NameEntry α) (name : Text) : Bool :=
  let pointless : Text := name.map fun c => if c = '.' then '_' else c
  entry.aliases.contains name.toString || entry.aliases.contains pointless.toString ||
    entry.name == name.toString

/-- The text encodings with their names. -/
def names : List (NameEntry Encoding) :=
  [⟨utf8, "utf_8", ["utf8", "u8", "utf", "utf8_ucs2", "utf8_ucs4", "cp65001"]⟩,
    ⟨utf8Marked, "utf_8_sig", []⟩,
    ⟨ascii, "ascii", ["us_ascii", "646", "ansi_x3.4_1968", "ansi_x3_4_1968", "ansi_x3.4_1986",
      "cp367", "csascii", "ibm367", "iso646_us", "iso_646.irv_1991", "iso_ir_6", "us"]⟩,
    ⟨latin1, "latin_1", ["latin1", "iso_8859_1", "iso8859_1", "iso8859", "8859", "cp819",
      "csisolatin1", "ibm819", "iso_8859_1_1987", "iso_ir_100", "l1", "latin"]⟩,
    ⟨windows1252, "cp1252", ["1252", "windows_1252"]⟩,
    ⟨utf16Little, "utf_16_le", ["utf_16le", "unicodelittleunmarked"]⟩,
    ⟨utf16Big, "utf_16_be", ["utf_16be", "unicodebigunmarked"]⟩,
    ⟨utf16Marked, "utf_16", ["utf16", "u16"]⟩]

/-- The names of what does not read bytes as text. -/
def otherNames : List (NameEntry Unit) :=
  [⟨(), "base64_codec", ["base64", "base_64"]⟩, ⟨(), "bz2_codec", ["bz2"]⟩,
    ⟨(), "hex_codec", ["hex"]⟩,
    ⟨(), "quopri_codec", ["quopri", "quoted_printable", "quotedprintable"]⟩,
    ⟨(), "rot_13", ["rot13"]⟩, ⟨(), "uu_codec", ["uu"]⟩, ⟨(), "zlib_codec", ["zip", "zlib"]⟩]

/-- The encoding with a name.  The encoding of the surroundings is UTF-8. -/
def ofName (name : Text) : Except EncodingNameError Encoding :=
  let wanted := normalName name
  if name.contains '\x00' then .error .nullCharacter
  else if name = "locale".toList then .ok utf8
  else
    match names.find? (·.isNamed wanted) with
    | some entry => .ok entry.value
    | none =>
      .error (if otherNames.any (·.isNamed wanted) then .notText name else .unknown name)

end Encoding

end TableSearch
