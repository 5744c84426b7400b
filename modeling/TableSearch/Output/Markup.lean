import TableSearch.Output.Sign
import TableSearch.Output.Style
import TableSearch.Output.StyledText

/-! # Markup

In markup a tag in brackets begins a style and a tag with a slash ends it; a backslash before a
bracket makes it an ordinary character.  A name between colons stands for a sign.  `Markup.read`
reads markup as styled text, and `Markup.escape` writes a text as markup that stands for it.
-/

namespace TableSearch

/-- Why a text is no markup. -/
inductive MarkupError where
  /-- A closing tag closes nothing that is open. -/
  | unmatched (tag : Text) (position : Nat)
  | nothingToClose (position : Nat)
  | style (error : StyleError)
deriving DecidableEq, Repr

namespace MarkupError

/-- The wording of an error. -/
def message : MarkupError → String
  | unmatched tag position =>
    "closing tag '" ++ tag.toString ++ "' at position " ++ toString position ++
      " doesn't match any open tag"
  | nothingToClose position =>
    "closing tag '[/]' at position " ++ toString position ++ " has nothing to close"
  | style error => error.message

end MarkupError

namespace Markup

/-! ## Tags -/

/-- A tag: its name, and what stands behind an equals sign. -/
structure Tag where
  name : Text
  parameters : Option Text
deriving DecidableEq, Repr

namespace Tag

/-- The tag with the given text between its brackets. -/
def ofText (inside : Text) : Tag :=
  match inside.dropWhile (· != '=') with
  | [] => ⟨inside, none⟩
  | _ :: parameters => ⟨inside.takeWhile (· != '='), some parameters⟩

/-- A tag with its brackets. -/
def text (tag : Tag) : Text :=
  '[' :: tag.name ++ tag.parameters.elim [] ('=' :: ·) ++ [']']

/-- The style that a tag asks for. -/
def style (tag : Tag) : Text :=
  tag.name ++ tag.parameters.elim [] (' ' :: ·)

end Tag

/-- The text between the brackets of a tag at the start of a text, and the text behind it.  A tag
begins with a small letter or one of three marks and holds no opening bracket. -/
def tagAt? : Text → Option (Text × Text)
  | '[' :: first :: rest =>
    if ('a' ≤ first && first ≤ 'z') || first == '#' || first == '/' || first == '@' then
      let inside := rest.takeWhile fun c => c != '[' && c != ']'
      match rest.drop inside.length with
      | ']' :: later => some (first :: inside, later)
      | _ => none
    else none
  | _ => none

/-- The backslashes at the start of a text, the tag behind them, and the text behind that. -/
def escapedTagAt? (text : Text) : Option (Text × Text × Text) :=
  let slashes := text.takeWhile (· == '\\')
  (tagAt? (text.drop slashes.length)).map fun (inside, later) => (slashes, inside, later)

/-- A text with a backslash before every tag in it. -/
def escapeTags (text : Text) : Nat → Text
  | 0 => text
  | rounds + 1 =>
    match escapedTagAt? text with
    | some (slashes, inside, later) =>
      slashes ++ slashes ++ '\\' :: '[' :: inside ++ ']' :: escapeTags later rounds
    | none =>
      match text with
      | [] => []
      | '\\' :: rest =>
        let slashes := rest.takeWhile (· == '\\')
        '\\' :: slashes ++ escapeTags (rest.drop slashes.length) rounds
      | c :: rest => c :: escapeTags rest rounds

/-- Markup that stands for a text. -/
def escape (text : Text) : Text :=
  let escaped := escapeTags text (text.length + 1)
  match escaped.reverse with
  | '\\' :: '\\' :: _ => escaped
  | '\\' :: _ => escaped ++ ['\\']
  | _ => escaped

/-! ## Pieces -/

/-- A piece of markup: characters, or a tag with its place. -/
inductive Piece where
  | plain (text : Text)
  | tag (position : Nat) (tag : Tag)
deriving DecidableEq, Repr

/-- The pieces for a tag behind backslashes.  Two backslashes stand for one; one that is left over
makes the tag a text. -/
def tagPieces (position : Nat) (slashes inside : Text) : List Piece :=
  let pairs := slashes.length / 2
  (if pairs = 0 then [] else [.plain (List.replicate pairs '\\')]) ++
    [if slashes.length % 2 = 1 then .plain ('[' :: inside ++ [']'])
      else .tag (position + 2 * pairs) (.ofText inside)]

/-- The piece for the characters that have been read, in reverse. -/
def plainPieces (read : Text) : List Piece :=
  if read.isEmpty then [] else [.plain read.reverse]

/-- The pieces of markup from a place on, behind characters that have been read. -/
def piecesFrom (position : Nat) (read text : Text) : Nat → List Piece
  | 0 => plainPieces read
  | rounds + 1 =>
    match escapedTagAt? text with
    | some (slashes, inside, later) =>
      plainPieces read ++ tagPieces position slashes inside ++
        piecesFrom (position + slashes.length + inside.length + 2) [] later rounds
    | none =>
      match text with
      | [] => plainPieces read
      | '\\' :: rest =>
        let slashes := rest.takeWhile (· == '\\')
        piecesFrom (position + 1 + slashes.length) (slashes ++ '\\' :: read)
          (rest.drop slashes.length) rounds
      | c :: rest => piecesFrom (position + 1) (c :: read) rest rounds

/-- The pieces of markup. -/
def pieces (markup : Text) : List Piece :=
  piecesFrom 0 [] markup (markup.length + 1)

/-! ## Reading -/

/-- Brackets without the backslashes before them. -/
def dropEscapes : Text → Text
  | '\\' :: '[' :: rest => '[' :: dropEscapes rest
  | c :: rest => c :: dropEscapes rest
  | [] => []

/-- What has been read of markup. -/
structure Draft where
  text : Text
  /-- The ranges that are closed, the last one first. -/
  ranges : List StyledRange
  /-- The places of the tags that are open, the last one first. -/
  opened : List (Nat × Tag)

namespace Draft

/-- The range of an open tag up to the end of the text. -/
def range (draft : Draft) (start : Nat) (tag : Tag) : StyledRange :=
  ⟨start, draft.text.length, tag.style⟩

/-- The draft with more characters. -/
def append (draft : Draft) (text : Text) : Draft :=
  { draft with text := draft.text ++ (StyledText.plain (Sign.replace (dropEscapes text))).text }

/-- The draft with one more open tag. -/
def openTag (draft : Draft) (tag : Tag) : Except MarkupError Draft :=
  match Style.normalize tag.name with
  | .ok name => .ok { draft with opened := (draft.text.length, { tag with name }) :: draft.opened }
  | .error error => .error (.style error)

/-- The draft with the last open tag of a name closed; without a name the last one of all. -/
def closeTag (draft : Draft) (position : Nat) (tag : Tag) : Except MarkupError Draft :=
  let close (place : Option Nat) (failure : MarkupError) : Except MarkupError Draft :=
    match place.bind fun place => draft.opened[place]?.map (place, ·) with
    | none => .error failure
    | some (place, start, openedTag) =>
      .ok { draft with
        ranges := draft.range start openedTag :: draft.ranges
        opened := draft.opened.eraseIdx place }
  let name : Text := Text.trim (tag.name.drop 1)
  if name.isEmpty then close (some 0) (.nothingToClose position)
  else
    match Style.normalize name with
    | .ok name =>
      close (draft.opened.findIdx? (·.2.name == name)) (.unmatched tag.text position)
    | .error error => .error (.style error)

/-- The draft with one more piece. -/
def read (draft : Draft) : Piece → Except MarkupError Draft
  | .plain text => .ok (draft.append text)
  | .tag position tag =>
    if tag.name.head? = some '/' then draft.closeTag position tag else draft.openTag tag

/-- The styled text of a draft; tags that are still open reach to its end. -/
def finish (draft : Draft) : StyledText :=
  let left := (draft.opened.map fun (start, tag) => draft.range start tag).filter fun range =>
    !range.style.isEmpty
  ⟨draft.text, (left.reverse ++ draft.ranges).mergeSort fun range₁ range₂ =>
    range₁.start ≤ range₂.start⟩

end Draft

/-- The styled text that markup stands for. -/
def read (markup : Text) : Except MarkupError StyledText :=
  if !markup.contains '[' then .ok (StyledText.plain (Sign.replace markup))
  else
    ((pieces markup).foldlM Draft.read ⟨[], [], []⟩).map Draft.finish

/-- The text that markup stands for, without its styles. -/
def plainText (markup : Text) : Except MarkupError Text :=
  (read markup).map (·.text)

end Markup

end TableSearch
