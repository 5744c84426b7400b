import TableSearch.Text.Class
import TableSearch.Number.Double

/-! # Guessing a delimiter

`Delimited.guess?` looks at a sample of a text for the delimiter of its fields.

* If some fields are quoted, the delimiter is the candidate that stands next to the quotes most
  often.
* Otherwise it is a candidate that occurs equally often on most lines.  Lines are looked at in
  portions until exactly one candidate is left.
-/

namespace TableSearch

namespace Delimited

/-- The characters that can be guessed, those first that win a tie. -/
def candidates : List Char := [',', '\t', ';', '|']

/-! ## Quoted fields -/

/-- Whether a character may stand next to a quoted field. -/
def isNeighbour (c : Char) : Bool :=
  !CharClass.isWord c && c != '\n' && c != '"' && c != '\''

/-- Whether a character is a quote. -/
def isQuote (c : Char) : Bool :=
  c == '"' || c == '\''

/-- The text behind the first place where a quote stands before an accepted text. -/
def afterQuote? (quote : Char) (accepts : Text → Option Text) : Text → Option Text
  | [] => none
  | c :: rest =>
    if c = quote then (accepts rest).or (afterQuote? quote accepts rest)
    else afterQuote? quote accepts rest

/-- The text behind a character and an optional space, and the quote that follows them. -/
def openedBy? (text : Text) : Option (Char × Text) :=
  match text with
  | q :: rest =>
    if isQuote q then some (q, rest)
    else
      match text with
      | ' ' :: q :: rest => if isQuote q then some (q, rest) else none
      | _ => none
  | [] => none

/-- A quoted field between two delimiters at the start of a text: the delimiter, and the text
behind. -/
def enclosedField? (text : Text) : Option (Char × Text) :=
  match text with
  | [] => none
  | d :: rest =>
    if !isNeighbour d then none
    else do
      let (q, inside) ← openedBy? rest
      let closes (later : Text) : Option Text :=
        if later.head? = some d then some later.tail else none
      let behind ← afterQuote? q closes inside
      return (d, behind)

/-- A quoted field at the start of a line and the delimiter behind it; `fresh` says whether the text
starts a line. -/
def leadingField? (fresh : Bool) (text : Text) : Option (Char × Text) :=
  let opened : Option (Char × Text) :=
    match text with
    | q :: rest =>
      if fresh && isQuote q then some (q, rest)
      else if q = '\n' then
        match rest with
        | q :: rest => if isQuote q then some (q, rest) else none
        | [] => none
      else none
    | [] => none
  do
    let (q, inside) ← opened
    let closes (later : Text) : Option Text :=
      if later.head?.any isNeighbour then some later else none
    let behind ← afterQuote? q closes inside
    match behind with
    | d :: ' ' :: later => return (d, later)
    | d :: later => return (d, later)
    | [] => none

/-- A quoted field at the end of a line and the delimiter before it. -/
def trailingField? (text : Text) : Option (Char × Text) :=
  match text with
  | [] => none
  | d :: rest =>
    if !isNeighbour d then none
    else do
      let (q, inside) ← openedBy? rest
      let behind ← afterQuote? q
        (fun later => if later.isEmpty || later.head? = some '\n' then some later else none) inside
      return (d, behind)

/-- The delimiters of the successive quoted fields of a text.  `fresh` says whether the text starts
a line. -/
def fieldDelimiters (field? : Bool → Text → Option (Char × Text)) (fresh : Bool) (text : Text) :
    Nat → List Char
  | 0 => []
  | rounds + 1 =>
    match field? fresh text, text with
    | some (d, behind), _ => d :: fieldDelimiters field? (endsLine text behind) behind rounds
    | none, [] => []
    | none, c :: rest => fieldDelimiters field? (c == '\n') rest rounds
where
  /-- Whether the last character before the text behind is a line feed. -/
  endsLine (text behind : Text) : Bool :=
    text[text.length - behind.length - 1]? == some '\n'

/-- The delimiters next to the quoted fields of a sample: of those between two delimiters if there
are any, then of those at the starts of lines, then of those at the ends. -/
def quotedDelimiters (sample : Text) : List Char :=
  let all (field? : Bool → Text → Option (Char × Text)) : List Char :=
    fieldDelimiters field? true sample (sample.length + 1)
  match all fun _ => enclosedField? with
  | [] =>
    match all leadingField? with
    | [] => all fun _ => trailingField?
    | found => found
  | found => found

/-- The most frequent of several characters, the earliest if there are several of them. -/
def mostFrequent? (chars : List Char) : Option Char :=
  chars.foldl (fun best c =>
    match best with
    | none => some c
    | some b => if chars.count b < chars.count c then some c else some b) none

/-- The candidate that stands next to quoted fields most often. -/
def byQuotes? (sample : Text) : Option Char :=
  mostFrequent? ((quotedDelimiters sample).filter candidates.contains)

/-! ## Frequencies -/

/-- How many lines there are with each number of occurrences; a number that was met first stands
first. -/
abbrev Frequencies := List (Nat × Nat)

namespace Frequencies

/-- The frequencies with one more line. -/
def add (occurrences : Nat) : Frequencies → Frequencies
  | [] => [(occurrences, 1)]
  | (known, lines) :: rest =>
    if known = occurrences then (known, lines + 1) :: rest
    else (known, lines) :: add occurrences rest

/-- The most frequent number of occurrences, and how many more lines have it than have another
one. -/
def mode? (table : Frequencies) : Option (Nat × Int) :=
  let best := table.foldl (fun best entry =>
    match best with
    | none => some entry
    | some b => if b.2 < entry.2 then some entry else some b) none
  best.map fun (occurrences, lines) =>
    (occurrences, (lines : Int) - (total (table.map (·.2)) - lines : Nat))

end Frequencies

/-- The shares of lines that are asked for, from all of them down to nine tenths. -/
def consistencies : List Double :=
  let step := Double.ofRatio false 1 100
  let down (x : Double) : Option Double :=
    let y := x.sub step
    if (Double.ofRatio false 9 10).isAbove y then none else some y
  let rec descend (x : Double) : Nat → List Double
    | 0 => [x]
    | rounds + 1 => x :: (match down x with | some y => descend y rounds | none => [])
  descend (Double.ofNat 1) 20

/-- The candidates that occur equally often on the lines looked at so far, at the highest share of
lines at which there is one. -/
def consistent (tables : List (Char × Frequencies)) (total : Nat) : List Char :=
  let reaching (share : Double) : List Char :=
    tables.filterMap fun (c, table) =>
      match table.mode? with
      | some (occurrences, lines) =>
        let reached := Double.ofRatio false lines.toNat total
        if 0 < occurrences && 0 < lines && !share.isAbove reached then some c else none
      | none => none
  ((consistencies.map reaching).find? (!·.isEmpty)).getD []

/-- The number of lines in a portion. -/
def portion : Nat := 10

/-- The candidate that is left when the lines are looked at in portions. -/
def byFrequency? (tables : List (Char × Frequencies)) (seen : Nat) (lines : List Text) :
    Nat → Option Char
  | 0 => none
  | rounds + 1 =>
    match lines with
    | [] => none
    | _ =>
      let now := lines.take portion
      let tables := tables.map fun (c, table) =>
        (c, now.foldl (fun table line => Frequencies.add (line.count c) table) table)
      match consistent tables (seen + now.length) with
      | [] => byFrequency? tables (seen + now.length) (lines.drop portion) rounds
      | found => candidates.find? found.contains

/-- The delimiter of a text, judged by a sample of it. -/
def guess? (sample : Text) : Option Char :=
  match byQuotes? sample with
  | some delimiter => some delimiter
  | none =>
    let lines := (Text.splitOn '\n' sample).filter (!·.isEmpty)
    byFrequency? (candidates.map (·, [])) 0 lines (lines.length + 1)

end Delimited

end TableSearch
