import TableSearch.Pattern.Syntax

/-! # Reading a pattern

`Pattern.compile?` reads the text of a pattern into its syntax tree.  The reader runs over tokens: a
character, or a character behind a backslash.  It keeps what the rules of the language ask for
beside the tree: the widths of the groups closed so far, the names of groups, the groups that
conditions ask for, and the modes set at the very start.

The rounds of the reader are bounded by the tokens: of any three nested calls one takes a token.
-/

namespace TableSearch

namespace Pattern

/-- A piece of a pattern: a character, an escaped character, or a backslash with nothing behind
it. -/
inductive Token where
  | plain (c : Char)
  | escaped (c : Char)
  | dangling
deriving DecidableEq, Repr

/-- The tokens of a text. -/
def Token.ofText : Text → List Token
  | [] => []
  | '\\' :: [] => [dangling]
  | '\\' :: c :: rest => escaped c :: ofText rest
  | c :: rest => plain c :: ofText rest

/-- The character of a token that is not escaped. -/
def Token.plain? : Token → Option Char
  | plain c => some c
  | _ => none

/-- The text of a token. -/
def Token.text : Token → Text
  | plain c => [c]
  | escaped c => ['\\', c]
  | dangling => ['\\']

/-- How a part of a pattern is read: letter case, lines, layout and the extent of the character
kinds. -/
structure Mode where
  ignoreCase : Bool
  multiLine : Bool
  dotAll : Bool
  spread : Bool
  ascii : Bool
deriving DecidableEq, Repr

namespace Mode

/-- The mode in which every pattern starts. -/
def standard : Mode := ⟨true, true, true, false, false⟩

/-- How letters are compared. -/
def caseRule (mode : Mode) : CaseRule :=
  if mode.ignoreCase then if mode.ascii then .asciiFolded else .folded else .exact

end Mode

/-- The letters that change a mode. -/
inductive ModeLetter where
  | ascii
  | ignoreCase
  | multiLine
  | dotAll
  | template
  | unicode
  | spread
deriving DecidableEq, Repr

namespace ModeLetter

/-- The mode letter that a character stands for. -/
def ofChar? : Char → Option ModeLetter
  | 'a' => some ascii
  | 'i' => some ignoreCase
  | 'm' => some multiLine
  | 's' => some dotAll
  | 't' => some template
  | 'u' => some unicode
  | 'x' => some spread
  | _ => none

/-- Whether the letter chooses the extent of the character kinds. -/
def choosesKinds (letter : ModeLetter) : Bool :=
  letter == ascii || letter == unicode

/-- A mode with the letter turned on or off. -/
def set (mode : Mode) (on : Bool) : ModeLetter → Mode
  | ascii => { mode with ascii := on }
  | ignoreCase => { mode with ignoreCase := on }
  | multiLine => { mode with multiLine := on }
  | dotAll => { mode with dotAll := on }
  | template => mode
  | unicode => { mode with ascii := !on }
  | spread => { mode with spread := on }

end ModeLetter

/-- What the reader knows between two tokens. -/
structure Reading where
  tokens : List Token
  /-- The widths of the groups, by number; an open group has none yet.  Entry 0 stands for the
  whole pattern. -/
  widths : Array (Option Width)
  names : List (Text × Nat)
  /-- Inside a look to the left: the groups below this number were open or closed before it. -/
  outerGroups : Option Nat
  conditions : List Nat
  letters : List ModeLetter

/-- A step of the reader. -/
abbrev Read := StateT Reading (Except PatternError)

/-- The end of a step that the grammar refuses. -/
def refuse {α : Type} : Read α :=
  throw .malformed

/-- The next token, which stays. -/
def peek : Read (Option Token) :=
  return (← get).tokens.head?

/-- The next token, which is taken. -/
def take : Read (Option Token) := do
  let reading ← get
  match reading.tokens with
  | [] => return none
  | token :: rest =>
    set { reading with tokens := rest }
    return some token

/-- Takes the next token if it is the given character. -/
def accept (c : Char) : Read Bool := do
  if (← peek) == some (.plain c) then
    let _ ← take
    return true
  return false

/-- Takes the given character or refuses. -/
def expect (c : Char) : Read Unit := do
  if !(← accept c) then refuse

/-- Takes up to `count` characters of a class. -/
def takeUpTo (ofClass : Char → Bool) : Nat → Read Text
  | 0 => return []
  | count + 1 => do
    match (← peek).bind Token.plain? with
    | some c =>
      if ofClass c then
        let _ ← take
        return c :: (← takeUpTo ofClass count)
      return []
    | none => return []

/-- Takes tokens up to a closing character, which is taken too, and returns their text, which may
not be empty. -/
def takeName (close : Char) : Read Text := do
  let reading ← get
  let inside := reading.tokens.takeWhile (· != .plain close)
  let name := inside.flatMap Token.text
  if inside.length = reading.tokens.length || inside.contains .dangling || name.isEmpty then refuse
  set { reading with tokens := reading.tokens.drop (inside.length + 1) }
  return name

/-- Octal digits. -/
def isOctal (c : Char) : Bool :=
  '0' ≤ c && c ≤ '7'

/-- The value of a hexadecimal digit. -/
def hexValue? (c : Char) : Option Nat :=
  if isDigit c then some (digitValue c)
  else if 'a' ≤ c && c ≤ 'f' then some (c.toNat - 'a'.toNat + 10)
  else if 'A' ≤ c && c ≤ 'F' then some (c.toNat - 'A'.toNat + 10)
  else none

/-- The number that digits denote in a base. -/
def numberIn (base : Nat) (digits : Text) : Nat :=
  digits.foldl (fun value c => value * base + (hexValue? c).getD 0) 0

/-- Whether a text is a name of a group. -/
def isName : Text → Bool
  | [] => false
  | c :: rest => CharClass.isNameStart c && rest.all CharClass.isNamePart

/-- The character that a letter behind a backslash stands for. -/
def controlCode? : Char → Option Nat
  | 'a' => some 7
  | 'b' => some 8
  | 'f' => some 12
  | 'n' => some 10
  | 'r' => some 13
  | 't' => some 9
  | 'v' => some 11
  | '\\' => some 92
  | _ => none

/-- The kind of characters that a letter behind a backslash stands for, and whether it is the
complement. -/
def kindOf? : Char → Option (CharKind × Bool)
  | 'd' => some (.digit, false)
  | 'D' => some (.digit, true)
  | 's' => some (.space, false)
  | 'S' => some (.space, true)
  | 'w' => some (.word, false)
  | 'W' => some (.word, true)
  | _ => none

/-- A character by its code in exactly `count` hexadecimal digits. -/
def takeHex (count : Nat) : Read Nat := do
  let digits ← takeUpTo (fun c => (hexValue? c).isSome) count
  if digits.length ≠ count then refuse
  let code := numberIn 16 digits
  if code > 0x10FFFF then refuse
  return code

/-- The code of a character that is written behind a backslash and means the same everywhere. -/
def readCode (c : Char) : Read Nat := do
  if c = 'x' then takeHex 2
  else if c = 'u' then takeHex 4
  else if c = 'U' then takeHex 8
  else if CharClass.isAsciiLetter c || isDigit c then refuse
  else return c.toNat

/-- A member of a character set behind a backslash. -/
def readSetEscape (mode : Mode) (c : Char) : Read CharItem := do
  match controlCode? c with
  | some code => return .one code
  | none =>
    match kindOf? c with
    | some (kind, complement) => return .ofKind kind complement mode.ascii
    | none =>
      if isOctal c then
        let code := numberIn 8 (c :: (← takeUpTo isOctal 2))
        if code > 0xFF then refuse
        return .one code
      return .one (← readCode c)

/-- Refuses a group that may not be asked for inside a look to the left. -/
def checkOuter (group : Nat) : Read Unit := do
  let reading ← get
  match reading.outerGroups with
  | none => return ()
  | some limit =>
    if (reading.widths[group]?).join.isNone || limit ≤ group then refuse

/-- A group matched again; it has to be closed. -/
def readBackref (mode : Mode) (group : Nat) : Read Node := do
  match ((← get).widths[group]?).join with
  | none => refuse
  | some width =>
    checkOuter group
    return .backref group mode.caseRule width

/-- What a quantifier finds in front of it. -/
inductive ItemKind where
  | anchor
  | loop
  | other
deriving DecidableEq, Repr

/-- A part of a sequence. -/
structure Item where
  node : Node
  kind : ItemKind

/-- A part that matches one character. -/
def Item.char (mode : Mode) (item : CharItem) : Item :=
  ⟨.char ⟨[item], false, mode.caseRule⟩, .other⟩

/-- A part that is a condition on the place. -/
def Item.anchor (condition : Anchor) : Item :=
  ⟨.anchor condition, .anchor⟩

/-- The condition that a letter behind a backslash stands for. -/
def anchorOf? (mode : Mode) : Char → Option Anchor
  | 'A' => some .start
  | 'Z' => some .stop
  | 'b' => some (.boundary mode.ascii)
  | 'B' => some (.inside mode.ascii)
  | _ => none

/-- A number behind a backslash: three octal digits are a character, all else is a group. -/
def readNumberEscape (mode : Mode) (c : Char) : Read Item := do
  let second ← takeUpTo isDigit 1
  let third ←
    if (c :: second).all isOctal && second ≠ [] then takeUpTo isOctal 1 else pure []
  let digits := c :: second ++ third
  if third ≠ [] then
    let code := numberIn 8 digits
    if code > 0xFF then refuse
    return Item.char mode (.one code)
  return ⟨← readBackref mode (natOfDigits digits), .other⟩

/-- A part of a sequence that begins with a backslash. -/
def readEscape (mode : Mode) (c : Char) : Read Item := do
  match anchorOf? mode c with
  | some condition => return Item.anchor condition
  | none =>
    match kindOf? c with
    | some (kind, complement) => return Item.char mode (.ofKind kind complement mode.ascii)
    | none =>
      match controlCode? c with
      | some code => return Item.char mode (.one code)
      | none =>
        if c = '0' then
          return Item.char mode (.one (numberIn 8 (← takeUpTo isOctal 2)))
        else if isDigit c then readNumberEscape mode c
        else return Item.char mode (.one (← readCode c))

/-- A token inside a character set as a member of it. -/
def readSetItem (mode : Mode) : Token → Read CharItem
  | .plain c => return .one c.toNat
  | .escaped c => readSetEscape mode c
  | .dangling => refuse

/-- The members of a character set up to its closing bracket, which is a member if it comes
first. -/
def readSetItems (mode : Mode) (items : List CharItem) : Nat → Read (List CharItem)
  | 0 => refuse
  | fuel + 1 => do
    match ← take with
    | none => refuse
    | some token =>
      if token == .plain ']' && !items.isEmpty then return items.reverse
      let low ← readSetItem mode token
      if !(← accept '-') then readSetItems mode (low :: items) fuel
      else
        match ← take with
        | none => refuse
        | some (.plain ']') => return (CharItem.one '-'.toNat :: low :: items).reverse
        | some token =>
          match low, ← readSetItem mode token with
          | .one first, .one last =>
            if last < first then refuse
            readSetItems mode (.range first last :: items) fuel
          | _, _ => refuse

/-- A character set after its opening bracket. -/
def readSet (mode : Mode) : Read Item := do
  let complement ← accept '^'
  let items ← readSetItems mode [] ((← get).tokens.length + 1)
  return ⟨.char ⟨items, complement, mode.caseRule⟩, .other⟩

/-- The least and the greatest count of a repetition. -/
structure Bounds where
  least : Nat
  most : Option Nat

/-- A count of a repetition. -/
def readCount (digits : Text) : Read Nat := do
  if PatternError.digitLimit < digits.length then throw (.countTooLong digits.length)
  let count := natOfDigits digits
  if 0xFFFFFFFF ≤ count then throw .repetitionTooLarge
  return count

/-- The counts of a repetition in braces, after the opening one.  None if the braces are plain
text. -/
def readBraces : Read (Option Bounds) := do
  let start ← get
  if (← peek) == some (.plain '\x7d') then return none
  let low ← takeUpTo isDigit start.tokens.length
  let ranged ← accept ','
  let high ← if ranged then takeUpTo isDigit start.tokens.length else pure low
  if !(← accept '\x7d') then
    set start
    return none
  if (← peek) == some .dangling then refuse
  let least ← if low.isEmpty then pure 0 else readCount low
  if high.isEmpty then return some ⟨least, none⟩
  let most ← readCount high
  if most < least then refuse
  return some ⟨least, some most⟩

/-- The counts that a quantifier stands for.  None if it is plain text. -/
def readBounds (c : Char) : Read (Option Bounds) := do
  if c = '?' then return some ⟨0, some 1⟩
  else if c = '*' then return some ⟨0, none⟩
  else if c = '+' then return some ⟨1, none⟩
  else readBraces

/-- The last part repeated. -/
def repeatLast (bounds : Bounds) : List Item → Read (List Item)
  | [] => refuse
  | item :: items => do
    if item.kind ≠ .other then refuse
    let lazy ← accept '?'
    let possessive ← if lazy then pure false else accept '+'
    let greed := if lazy then Greed.lazy else if possessive then .possessive else .greedy
    return ⟨.loop greed bounds.least bounds.most item.node, .loop⟩ :: items

/-- The number of a new group. -/
def openGroup (name : Option Text) : Read Nat := do
  let reading ← get
  let group := reading.widths.size
  let names ←
    match name with
    | none => pure reading.names
    | some name =>
      if (reading.names.lookup name).isSome then refuse
      pure ((name, group) :: reading.names)
  set { reading with widths := reading.widths.push none, names }
  return group

/-- Records the width of a group that ends. -/
def closeGroup (group : Nat) (body : Node) : Read Unit :=
  modify fun reading => { reading with widths := reading.widths.set! group (some body.width) }

/-- The group that a condition asks for: by name, or by number. -/
def readCondition : Read Nat := do
  let name ← takeName ')'
  if isName name then
    match (← get).names.lookup name with
    | none => refuse
    | some group =>
      checkOuter group
      return group
  else
    let digits := (name.trim.dropWhile (· == '+')).filterMap CharClass.decimalValue?
    let written := if name.trim.head? == some '+' then name.trim.drop 1 else name.trim
    let grouped := Text.splitOn '_' written
    if grouped.any (fun part => part.isEmpty || !part.all CharClass.isDecimal) then refuse
    if PatternError.digitLimit < digits.length then refuse
    let group := digits.foldl (fun value d => 10 * value + d) 0
    if group = 0 || 1073741823 ≤ group then refuse
    modify fun reading => { reading with conditions := group :: reading.conditions }
    checkOuter group
    return group

/-- Mode letters up to a character that is none, which is taken and returned.  The letters of one
run may not ask for both extents of the character kinds. -/
def readLetters (letters : List ModeLetter) (c : Char) : Nat → Read (List ModeLetter × Char)
  | 0 => refuse
  | fuel + 1 => do
    match ModeLetter.ofChar? c with
    | none => return (letters, c)
    | some letter =>
      if letter.choosesKinds && letters.any fun other => other.choosesKinds && other ≠ letter then
        refuse
      match ← take with
      | some (.plain next) => readLetters (letter :: letters) next fuel
      | _ => refuse

/-- The head of a group with mode letters: the letters to turn on, and those to turn off if the
group has a body. -/
def readModeHead (c : Char) : Read (List ModeLetter × Option (List ModeLetter)) := do
  let fuel := (← get).tokens.length + 2
  let (on, close) ← if c = '-' then pure ([], '-') else readLetters [] c fuel
  if close = ')' then return (on, none)
  if on.contains .template then refuse
  if close = ':' then return (on, some [])
  if close ≠ '-' then refuse
  match ← take with
  | some (.plain first) =>
    let (off, close) ← readLetters [] first fuel
    if off.isEmpty || close ≠ ':' || off.any (·.choosesKinds) || off.contains .template then refuse
    if on.any off.contains then refuse
    return (on, some off)
  | _ => refuse

/-- A mode with letters turned on and then off. -/
def withLetters (mode : Mode) (on off : List ModeLetter) : Mode :=
  let raised := on.foldl (fun mode letter => letter.set mode true) mode
  off.foldl (fun mode letter => letter.set mode false) raised

/-- Takes a comment up to its closing character, which has to be there if `closed`. -/
def skipComment (close : Char) (closed : Bool) : Read Unit := do
  let reading ← get
  let inside := reading.tokens.takeWhile (· != .plain close)
  if inside.contains .dangling then refuse
  if closed && inside.length = reading.tokens.length then refuse
  set { reading with tokens := reading.tokens.drop (inside.length + 1) }

/-- Layout that a pattern in spread mode may contain. -/
def isLayout (c : Char) : Bool :=
  c == ' ' || (9 ≤ c.toNat && c.toNat ≤ 13)

/-- The pattern that reads a list of parts from last to first. -/
def sequence (items : List Item) : Node :=
  Node.ofList (items.reverse.map (·.node))

mutual

/-- Sequences separated by bars.  Returns the mode that the first of them left. -/
def readChoice (mode : Mode) (outermost : Bool) : Nat → Read Node
  | 0 => refuse
  | fuel + 1 => do
    let (first, mode) ← readSequence mode outermost [] fuel
    if ← accept '|' then return .alt first (← readChoice mode false fuel)
    return first

/-- The parts of a sequence, up to a bar, a closing parenthesis or the end.  The modes of the whole
pattern can only be set at the start of its first sequence. -/
def readSequence (mode : Mode) (outermost : Bool) (items : List Item) : Nat → Read (Node × Mode)
  | 0 => refuse
  | fuel + 1 => do
    match ← peek with
    | none | some (.plain '|') | some (.plain ')') => return (sequence items, mode)
    | some .dangling => refuse
    | some (.escaped c) =>
      let _ ← take
      readSequence mode outermost ((← readEscape mode c) :: items) fuel
    | some (.plain c) =>
      let _ ← take
      if mode.spread && isLayout c then readSequence mode outermost items fuel
      else if mode.spread && c = '#' then
        skipComment '\n' false
        readSequence mode outermost items fuel
      else if c = '[' then readSequence mode outermost ((← readSet mode) :: items) fuel
      else if c = '.' then
        let set := if mode.dotAll then CharSet.all else CharSet.withinLine
        readSequence mode outermost (⟨.char set, .other⟩ :: items) fuel
      else if c = '^' then
        let condition := if mode.multiLine then Anchor.lineStart else Anchor.start
        readSequence mode outermost (Item.anchor condition :: items) fuel
      else if c = '$' then
        let condition := if mode.multiLine then Anchor.lineStop else Anchor.lastLineStop
        readSequence mode outermost (Item.anchor condition :: items) fuel
      else if c = '?' || c = '*' || c = '+' || c = '\x7b' then
        match ← readBounds c with
        | some bounds => readSequence mode outermost (← repeatLast bounds items) fuel
        | none =>
          readSequence mode outermost (Item.char mode (.one c.toNat) :: items) fuel
      else if c = '(' then
        if ← accept '?' then
          match ← take with
          | some (.plain c) =>
            if c = '#' then
              skipComment ')' true
              readSequence mode outermost items fuel
            else if c = '-' || (ModeLetter.ofChar? c).isSome then
              match ← readModeHead c with
              | (on, none) =>
                if !outermost || !items.isEmpty then refuse
                modify fun reading => { reading with letters := on ++ reading.letters }
                readSequence (withLetters mode on []) outermost items fuel
              | (on, some off) =>
                let body ← readBody (withLetters mode on off) fuel
                readSequence mode outermost (⟨body, .other⟩ :: items) fuel
            else
              let node ← readExtension mode c fuel
              readSequence mode outermost (⟨node, .other⟩ :: items) fuel
          | _ => refuse
        else
          let node ← readCapture mode none fuel
          readSequence mode outermost (⟨node, .other⟩ :: items) fuel
      else readSequence mode outermost (Item.char mode (.one c.toNat) :: items) fuel

/-- A choice and the parenthesis that closes it. -/
def readBody (mode : Mode) : Nat → Read Node
  | 0 => refuse
  | fuel + 1 => do
    let body ← readChoice mode false fuel
    expect ')'
    return body

/-- A group that is remembered. -/
def readCapture (mode : Mode) (name : Option Text) : Nat → Read Node
  | 0 => refuse
  | fuel + 1 => do
    let group ← openGroup name
    let body ← readBody mode fuel
    closeGroup group body
    return .capture group body

/-- A group that begins with a question mark and the given character. -/
def readExtension (mode : Mode) (c : Char) : Nat → Read Node
  | 0 => refuse
  | fuel + 1 => do
    if c = ':' then readBody mode fuel
    else if c = '>' then return .atomic (← readBody mode fuel)
    else if c = '=' then return .ahead false (← readBody mode fuel)
    else if c = '!' then return .ahead true (← readBody mode fuel)
    else if c = '<' then
      let positive ← accept '='
      if !positive then expect '!'
      let before := (← get).outerGroups
      modify fun reading =>
        { reading with outerGroups := before.or (some reading.widths.size) }
      let body ← readChoice mode false fuel
      modify fun reading => { reading with outerGroups := before }
      expect ')'
      return .behind (!positive) body.width body
    else if c = 'P' then
      if ← accept '<' then
        let name ← takeName '>'
        if !isName name then refuse
        readCapture mode (some name) fuel
      else
        expect '='
        let name ← takeName ')'
        if !isName name then refuse
        match (← get).names.lookup name with
        | some group => readBackref mode group
        | none => refuse
    else if c = '(' then
      let group ← readCondition
      let (yes, _) ← readSequence mode false [] fuel
      let no ←
        if ← accept '|' then
          let (no, _) ← readSequence mode false [] fuel
          pure no
        else pure Node.empty
      expect ')'
      return .choose group yes no
    else refuse

end

/-- Reads the text of a pattern. -/
def compile (source : Text) : Except PatternError Node := do
  let tokens := Token.ofText source
  let start : Reading := ⟨tokens, #[none], [], none, [], []⟩
  let (node, reading) ← (readChoice .standard true (4 * tokens.length + 4)).run start
  if reading.letters.contains .ascii && reading.letters.contains .unicode then
    throw .incompatibleModes
  if !reading.tokens.isEmpty then throw .malformed
  if reading.conditions.any (reading.widths.size ≤ ·) then throw .malformed
  if !node.looksBackFixed then throw .malformed
  if reading.letters.contains .template && node.repeats then throw .malformed
  return node

end Pattern

/-- A pattern with its source.  Two patterns are equal when their sources are. -/
structure Pattern where
  source : Text
  node : Node
  compiled : Pattern.compile source = .ok node

namespace Pattern

/-- The pattern that a text writes. -/
def ofText (source : Text) : Except PatternError Pattern :=
  match h : compile source with
  | .ok node => .ok ⟨source, node, h⟩
  | .error problem => .error problem

/-- Two patterns are equal if their sources are: a source compiles in only one way. -/
theorem eq_of_source_eq {p q : Pattern} (h : p.source = q.source) : p = q := by
  obtain ⟨source, node, hp⟩ := p
  obtain ⟨_, other, hq⟩ := q
  cases h
  rw [hp] at hq
  cases hq
  rfl

instance : DecidableEq Pattern := fun p q =>
  if h : p.source = q.source then isTrue (eq_of_source_eq h)
  else isFalse fun hpq => h (hpq ▸ rfl)

end Pattern

end TableSearch
