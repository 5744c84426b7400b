import TableSearch.Text.Case

/-! # Search patterns

The syntax tree of a search pattern, as the matcher walks it.  Case rules and line rules have been
resolved: every node carries what it needs to decide a match by itself.

* `CharSet` is a test on one character.
* `Node` is a pattern; a sequence and a choice are binary, an empty pattern matches anywhere.
* `Node.width` is the least and the greatest number of characters that a node can match.
-/

namespace TableSearch

/-- How letters are compared: as they are, without their case, or with only ASCII letters freed of
their case. -/
inductive CaseRule where
  | exact
  | folded
  | asciiFolded
deriving DecidableEq, Repr

/-- Kinds of characters that a pattern can name. -/
inductive CharKind where
  | digit
  | space
  | word
deriving DecidableEq, Repr

namespace CharKind

/-- Whether a character is of the kind, with only ASCII characters admitted if asked. -/
def holds (kind : CharKind) (ascii : Bool) (c : Char) : Bool :=
  match kind with
  | digit => if ascii then isDigit c else CharClass.isDecimal c
  | space =>
    if ascii then c == ' ' || (9 ≤ c.toNat && c.toNat ≤ 13) else CharClass.isBlank c
  | word =>
    if ascii then c == '_' || CharClass.isAsciiLetter c || isDigit c else CharClass.isWord c

end CharKind

/-- A member of a character set. -/
inductive CharItem where
  | one (code : Nat)
  | range (low high : Nat)
  | ofKind (kind : CharKind) (complement ascii : Bool)
deriving DecidableEq, Repr

namespace CharItem

/-- Whether a member of a set takes in a character. -/
def takes (rule : CaseRule) (c : Char) : CharItem → Bool
  | one code =>
    match rule with
    | .exact => c.toNat == code
    | .folded => CharCase.foldCode c.toNat == CharCase.foldCode code
    | .asciiFolded => CharCase.asciiLowerCode c.toNat == CharCase.asciiLowerCode code
  | range low high =>
    let inside (code : Nat) : Bool := low ≤ code && code ≤ high
    match rule with
    | .exact => inside c.toNat
    | .folded => (CharCase.caseMates c.toNat).any inside
    | .asciiFolded =>
      let code := CharCase.asciiLowerCode c.toNat
      inside code || (97 ≤ code && code ≤ 122 && inside (code - 32))
  | ofKind kind complement ascii =>
    let form := match rule with
      | .exact => c
      | .folded => CharCase.lowerChar c
      | .asciiFolded => Char.ofNat (CharCase.asciiLowerCode c.toNat)
    kind.holds ascii form != complement

end CharItem

/-- A set of characters: those that one of the members takes in, or those that none does. -/
structure CharSet where
  items : List CharItem
  complement : Bool
  rule : CaseRule
deriving DecidableEq, Repr

namespace CharSet

/-- Whether a character belongs to the set. -/
def accepts (set : CharSet) (c : Char) : Bool :=
  set.items.any (·.takes set.rule c) != set.complement

/-- The set of all characters. -/
def all : CharSet := ⟨[], true, .exact⟩

/-- The set of all characters that do not end a line. -/
def withinLine : CharSet := ⟨[.one 10], true, .exact⟩

end CharSet

/-- Conditions on a place in the text. -/
inductive Anchor where
  | start
  | lineStart
  | stop
  | lineStop
  | lastLineStop
  | boundary (ascii : Bool)
  | inside (ascii : Bool)
deriving DecidableEq, Repr

/-- Which number of repetitions is tried first, and whether the others are tried at all. -/
inductive Greed where
  | greedy
  | lazy
  | possessive
deriving DecidableEq, Repr

/-- The least and the greatest number of characters of a match. -/
structure Width where
  least : Nat
  most : Nat
deriving DecidableEq, Repr

namespace Width

/-- Widths from here on are not told apart. -/
def limit : Nat := Nat.pow 2 64

/-- A width with both ends cut at the limit. -/
def cap (w : Width) : Width :=
  ⟨min w.least limit, min w.most limit⟩

/-- The width of one character. -/
def single : Width := ⟨1, 1⟩

/-- The width of nothing. -/
def zero : Width := ⟨0, 0⟩

/-- The width of one match after another. -/
def append (v w : Width) : Width :=
  cap ⟨v.least + w.least, v.most + w.most⟩

/-- The width of one match or another. -/
def choose (v w : Width) : Width :=
  ⟨min v.least w.least, max v.most w.most⟩

/-- The width of a match repeated. -/
def repeated (w : Width) (least : Nat) (most : Option Nat) : Width :=
  cap ⟨w.least * least, match most with
    | some n => w.most * n
    | none => if w.most = 0 then 0 else limit⟩

/-- Whether a text of this width can be looked for directly to the left. -/
def isFixed (w : Width) : Bool :=
  w.least == w.most && w.least < Nat.pow 2 32

end Width

/-- A pattern.  A group is known by its number, counted from 1. -/
inductive Node where
  | empty
  | char (set : CharSet)
  | anchor (condition : Anchor)
  | backref (group : Nat) (rule : CaseRule) (width : Width)
  | capture (group : Nat) (body : Node)
  | seq (first second : Node)
  | alt (first second : Node)
  | loop (greed : Greed) (least : Nat) (most : Option Nat) (body : Node)
  | ahead (negated : Bool) (body : Node)
  | behind (negated : Bool) (width : Width) (body : Node)
  | atomic (body : Node)
  | choose (group : Nat) (yes no : Node)
deriving DecidableEq, Repr

namespace Node

/-- The width of the matches of a pattern. -/
def width : Node → Width
  | empty => .zero
  | char _ => .single
  | anchor _ => .zero
  | backref _ _ width => width
  | capture _ body => body.width
  | seq first second => first.width.append second.width
  | alt first second => first.width.choose second.width
  | loop _ least most body => body.width.repeated least most
  | ahead _ _ => .zero
  | behind _ _ _ => .zero
  | atomic body => body.width
  | choose _ yes no => yes.width.choose no.width

/-- Whether every part that looks to the left looks for texts of one width. -/
def looksBackFixed : Node → Bool
  | empty => true
  | char _ => true
  | anchor _ => true
  | backref _ _ _ => true
  | capture _ body => body.looksBackFixed
  | seq first second => first.looksBackFixed && second.looksBackFixed
  | alt first second => first.looksBackFixed && second.looksBackFixed
  | loop _ _ _ body => body.looksBackFixed
  | ahead _ body => body.looksBackFixed
  | behind _ width body => width.isFixed && body.looksBackFixed
  | atomic body => body.looksBackFixed
  | choose _ yes no => yes.looksBackFixed && no.looksBackFixed

/-- Whether a part of the pattern is repeated. -/
def repeats : Node → Bool
  | empty => false
  | char _ => false
  | anchor _ => false
  | backref _ _ _ => false
  | capture _ body => body.repeats
  | seq first second => first.repeats || second.repeats
  | alt first second => first.repeats || second.repeats
  | loop _ _ _ _ => true
  | ahead _ body => body.repeats
  | behind _ _ body => body.repeats
  | atomic body => body.repeats
  | choose _ yes no => yes.repeats || no.repeats

/-- The patterns of a list one after another. -/
def ofList : List Node → Node
  | [] => empty
  | [node] => node
  | node :: rest => seq node (ofList rest)

end Node

/-- Why a text is no pattern. -/
inductive PatternError where
  /-- It breaks the grammar, or a rule on groups, names or widths. -/
  | malformed
  /-- A repetition count is out of range. -/
  | repetitionTooLarge
  /-- A repetition count has more digits than a count may have. -/
  | countTooLong (digits : Nat)
  /-- Both the ASCII and the full character kinds are asked for. -/
  | incompatibleModes
deriving DecidableEq, Repr

namespace PatternError

/-- The most digits that a number may be written with. -/
def digitLimit : Nat := 4300

/-- The wording for a number with too many digits. -/
def tooManyDigits (digits : Nat) : String :=
  "Exceeds the limit (" ++ toString digitLimit ++
    " digits) for integer string conversion: value has " ++ toString digits ++
    " digits; use sys.set_int_max_str_digits() to increase the limit"

/-- The wording of an error; a malformed pattern has none. -/
def message : PatternError → String
  | malformed => ""
  | repetitionTooLarge => "the repetition number is too large"
  | countTooLong digits => tooManyDigits digits
  | incompatibleModes => "ASCII and UNICODE flags are incompatible"

end PatternError

end TableSearch
