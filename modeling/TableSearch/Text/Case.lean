import TableSearch.Text.Class
import TableSearch.Text.CaseTable

/-! # Letter case

Lower-casing of characters and of texts, and the case folding under which two characters count as
the same letter.

* `lowerChar` maps one character to one character.
* `lowerForm` maps one character to a text: the dotted capital I becomes two characters.
* `Text.lower` maps a text and writes a capital sigma at the end of a word in its final form.
* `foldCode` picks one member of the class of characters that share an upper- and lower-case form.
-/

namespace TableSearch

namespace CharTable

/-- The code that a run maps `code` to, if the run holds it. -/
def CaseRun.map? (run : CaseRun) (code : Nat) : Option Nat :=
  if run.first ≤ code && code ≤ run.last && (code - run.first) % run.step == 0 then
    some (Int.toNat (code + run.delta))
  else none

/-- The code that a run maps to `code`, if it maps one there. -/
def CaseRun.preimage? (run : CaseRun) (code : Nat) : Option Nat :=
  let source := Int.toNat ((code : Int) - run.delta)
  if run.map? source == some code then some source else none

end CharTable

namespace CharCase

/-- The lower-case code of a code point, itself if it has none. -/
def lowerCode (code : Nat) : Nat :=
  if code < 128 then if 65 ≤ code && code ≤ 90 then code + 32 else code
  else (CharTable.lowerRuns.findSome? (·.map? code)).getD code

/-- The lower-case character of a character, itself if it has none. -/
def lowerChar (c : Char) : Char :=
  if c.toNat < 128 then
    if 'A' ≤ c && c ≤ 'Z' then Char.ofNat (c.toNat + 32) else c
  else Char.ofNat (lowerCode c.toNat)

/-- The lower-case text of a character. -/
def lowerForm (c : Char) : Text :=
  if c = 'İ' then ['i', '\u0307'] else [lowerChar c]

/-- Whether a character has a case. -/
def isCased (c : Char) : Bool :=
  CharTable.member CharTable.casedEnds c.toNat

/-- Whether a character is looked through when the end of a word is sought. -/
def isIgnorable (c : Char) : Bool :=
  CharTable.member CharTable.caseIgnorableEnds c.toNat

/-- Whether the first character that is not looked through is cased. -/
def meetsCased (text : Text) : Bool :=
  match text.find? (fun c => isCased c || !isIgnorable c) with
  | some c => isCased c
  | none => false

/-- The class of lower-case codes that share the upper-case form of a lower-case code. -/
def sharedClass (code : Nat) : List Nat :=
  (CharTable.sharedUpper.find? (·.contains code)).getD [code]

/-- One code of the class of codes that are the same letter in some case. -/
def foldCode (code : Nat) : Nat :=
  match sharedClass (lowerCode code) with
  | [] => lowerCode code
  | first :: _ => first

/-- All codes that are the same letter as `code` in some case. -/
def caseMates (code : Nat) : List Nat :=
  (sharedClass (lowerCode code)).flatMap fun lower =>
    let ascii := if 97 ≤ lower && lower ≤ 122 then [lower - 32] else []
    lower :: ascii ++ (CharTable.lowerRuns.filterMap (·.preimage? lower)).toList

/-- The lower-case code of a code point where only ASCII letters have a case. -/
def asciiLowerCode (code : Nat) : Nat :=
  if 65 ≤ code && code ≤ 90 then code + 32 else code

end CharCase

namespace Text

open CharCase

/-- Auxiliary recursion of `lower`: the characters already passed, nearest first. -/
def lowerFrom : Text → Text → Text
  | _, [] => []
  | passed, c :: rest =>
    if c = 'Σ' then
      (if meetsCased passed && !meetsCased rest then 'ς' else 'σ') :: lowerFrom (c :: passed) rest
    else lowerForm c ++ lowerFrom (c :: passed) rest

/-- The lower-case form of a text. -/
def lower (text : Text) : Text :=
  lowerFrom [] text

/-- The lower-case form of a text cut into units that stand at the text's own offsets: single
characters, unless lower-casing changes the length; then the form of each character by itself. -/
def fold (text : Text) : List Text :=
  let lowered := lower text
  if lowered.length = text.length then lowered.map ([·]) else text.map lowerForm

end Text

end TableSearch
