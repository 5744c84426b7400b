import TableSearch.Output.SignTable
import TableSearch.Text.Case

/-! # Named signs

In printed messages a name between colons stands for a sign, such as `:x:` for a cross.
-/

namespace TableSearch

namespace Sign

/-- The sign with a name; letter case does not count. -/
def named? (name : Text) : Option Text :=
  let name := name.lower.toString
  match single.lookup name with
  | some code => some [Char.ofNat code]
  | none => (several.lookup name).map fun codes => codes.map Char.ofNat

/-- The endings of a name that ask for a sign in black and white or in colors, with the characters
that select it. -/
def variants : List (Text × Char) :=
  [("-text".toList, Char.ofNat 0xFE0E), ("-emoji".toList, Char.ofNat 0xFE0F)]

/-- The sign that a name with or without such an ending stands for. -/
def read? (name : Text) : Option Text :=
  match variants.find? (·.1.isSuffixOf name) with
  | some (ending, selector) =>
    (named? (name.take (name.length - ending.length))).map (· ++ [selector])
  | none => named? name

/-- The text with the names between colons replaced by their signs.  The number bounds the
names. -/
def replaceFrom (text : Text) : Nat → Text
  | 0 => text
  | rounds + 1 =>
    match text with
    | [] => []
    | ':' :: rest =>
      let name := rest.takeWhile fun c => c != ':' && !CharClass.isBlank c
      match rest.drop name.length with
      | ':' :: later =>
        (read? name).getD (':' :: name ++ [':']) ++ replaceFrom later rounds
      | _ => ':' :: replaceFrom rest rounds
    | c :: rest => c :: replaceFrom rest rounds

/-- The text with the names between colons replaced by their signs. -/
def replace (text : Text) : Text :=
  replaceFrom text (text.length + 1)

end Sign

end TableSearch
