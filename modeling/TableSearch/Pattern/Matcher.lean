import TableSearch.Pattern.Syntax
import TableSearch.Span.Basic

/-! # Matching a pattern

`Node.run` tries a pattern at a place of a text and hands every place where it can end, in order of
preference, to a continuation; the first that the continuation accepts wins.  `Node.findAll` goes
through a text from left to right and returns the spans of successive matches.

A repetition carries a bound on its rounds.  Each optional round has to start at a new place, so the
required rounds and one round for each place left are enough.
-/

namespace TableSearch

/-- How far a match has come: the place in the text, and the ends of the groups met so far, newest
first.  End `2 * n` is where group `n` starts and end `2 * n + 1` where it stops. -/
structure MatchState where
  position : Nat
  ends : List (Nat × Nat)
deriving DecidableEq, Repr

namespace MatchState

/-- The state one character further. -/
def advance (here : MatchState) : MatchState :=
  { here with position := here.position + 1 }

/-- The state with one end of a group at the current place. -/
def mark (here : MatchState) (which : Nat) : MatchState :=
  { here with ends := (which, here.position) :: here.ends }

/-- The span that a group matched last. -/
def group? (here : MatchState) (group : Nat) : Option Span := do
  let start ← here.ends.lookup (2 * group)
  let stop ← here.ends.lookup (2 * group + 1)
  if start ≤ stop then some ⟨start, stop⟩ else none

end MatchState

/-- What is to be matched after a pattern. -/
abbrev Continuation := MatchState → Option MatchState

namespace Node

variable (text : Array Char)

/-- Whether the character at a place is one of a word. -/
def isWordAt (ascii : Bool) (position : Nat) : Bool :=
  (text[position]?).any (CharKind.word.holds ascii)

/-- Whether a word begins or ends at a place. -/
def isBoundary (ascii : Bool) (position : Nat) : Bool :=
  (position != 0 && isWordAt text ascii (position - 1)) != isWordAt text ascii position

/-- Whether a condition holds at a place. -/
def holdsAt (position : Nat) : Anchor → Bool
  | .start => position == 0
  | .lineStart => position == 0 || text[position - 1]? == some '\n'
  | .stop => position == text.size
  | .lineStop => position == text.size || text[position]? == some '\n'
  | .lastLineStop =>
    position == text.size || (position + 1 == text.size && text[position]? == some '\n')
  | .boundary ascii => text.size != 0 && isBoundary text ascii position
  | .inside ascii => text.size != 0 && !isBoundary text ascii position

/-- Whether two characters count as the same when a group is matched again. -/
def sameAgain (rule : CaseRule) (c d : Char) : Bool :=
  match rule with
  | .exact => c == d
  | .folded => CharCase.lowerCode c.toNat == CharCase.lowerCode d.toNat
  | .asciiFolded => CharCase.asciiLowerCode c.toNat == CharCase.asciiLowerCode d.toNat

/-- Whether `count` characters at two places are the same. -/
def repeatsAt (rule : CaseRule) (source target : Nat) : Nat → Bool
  | 0 => true
  | count + 1 =>
    (match text[source]?, text[target]? with
      | some c, some d => sameAgain rule c d
      | _, _ => false) && repeatsAt rule (source + 1) (target + 1) count

/-- As many rounds as possible first, then fewer. -/
def runGreedy (step : MatchState → Continuation → Option MatchState) (least : Nat)
    (most : Option Nat) (next : Continuation) :
    Nat → Nat → Option Nat → MatchState → Option MatchState
  | 0, _, _, _ => none
  | fuel + 1, count, last, here =>
    if count < least then step here (runGreedy step least most next fuel (count + 1) last)
    else
      let longer :=
        if most.all (count < ·) && last != some here.position then
          step here (runGreedy step least most next fuel (count + 1) (some here.position))
        else none
      longer.or (next here)

/-- As few rounds as possible first, then more. -/
def runLazy (step : MatchState → Continuation → Option MatchState) (least : Nat) (most : Option Nat)
    (next : Continuation) : Nat → Nat → Option Nat → MatchState → Option MatchState
  | 0, _, _, _ => none
  | fuel + 1, count, last, here =>
    if count < least then step here (runLazy step least most next fuel (count + 1) last)
    else
      match next here with
      | some found => some found
      | none =>
        if most.all (count < ·) && last != some here.position then
          step here (runLazy step least most next fuel (count + 1) (some here.position))
        else none

/-- As many rounds as possible, each matched in its first way only. -/
def runPossessive (step : MatchState → Continuation → Option MatchState) (least : Nat)
    (most : Option Nat) : Nat → Nat → Option Nat → MatchState → Option MatchState
  | 0, _, _, _ => none
  | fuel + 1, count, last, here =>
    if count < least then
      match step here some with
      | some mid => runPossessive step least most fuel (count + 1) last mid
      | none => none
    else if most.all (count < ·) && last != some here.position then
      match step here some with
      | some mid => runPossessive step least most fuel (count + 1) (some here.position) mid
      | none => some here
    else some here

/-- The first way in which a pattern, followed by what the continuation asks for, matches. -/
def run : Node → MatchState → Continuation → Option MatchState
  | empty, here, next => next here
  | char set, here, next =>
    match text[here.position]? with
    | some c => if set.accepts c then next here.advance else none
    | none => none
  | anchor condition, here, next => if holdsAt text here.position condition then next here else none
  | backref group rule _, here, next =>
    match here.group? group with
    | some span =>
      if repeatsAt text rule span.start here.position span.length then
        next { here with position := here.position + span.length }
      else none
    | none => none
  | capture group body, here, next =>
    body.run (here.mark (2 * group)) fun inner => next (inner.mark (2 * group + 1))
  | seq first second, here, next => first.run here fun mid => second.run mid next
  | alt first second, here, next =>
    match first.run here next with
    | some found => some found
    | none => second.run here next
  | loop greed least most body, here, next =>
    let step := fun place onward => body.run place onward
    let rounds := least + (text.size - here.position) + 2
    match greed with
    | .greedy => runGreedy step least most next rounds 0 none here
    | .lazy => runLazy step least most next rounds 0 none here
    | .possessive =>
      match runPossessive step least most rounds 0 none here with
      | some mid => next mid
      | none => none
  | ahead negated body, here, next =>
    match body.run here some, negated with
    | some inner, false => next { inner with position := here.position }
    | none, true => next here
    | _, _ => none
  | behind negated width body, here, next =>
    let inner :=
      if width.least ≤ here.position then
        body.run { here with position := here.position - width.least } some
      else none
    match inner, negated with
    | some inner, false => next { inner with position := here.position }
    | none, true => next here
    | _, _ => none
  | atomic body, here, next =>
    match body.run here some with
    | some inner => next inner
    | none => none
  | choose group yes no, here, next =>
    if (here.group? group).isSome then yes.run here next else no.run here next

/-- The end of the match at a place, if there is one; it may be required to be further on. -/
def matchAt (node : Node) (start : Nat) (mustAdvance : Bool) : Option Nat :=
  (node.run text ⟨start, []⟩ fun here =>
    if mustAdvance && here.position == start then none else some here).map (·.position)

/-- The first match at or after a place.  Only the one at that place may have to advance. -/
def findFrom (node : Node) (start : Nat) (mustAdvance : Bool) : Nat → Option Span
  | 0 => none
  | fuel + 1 =>
    match node.matchAt text start mustAdvance with
    | some stop => some ⟨start, stop⟩
    | none => if start < text.size then node.findFrom (start + 1) false fuel else none

/-- Auxiliary run of `findAll`: successive matches from a place on. -/
def findAllFrom (node : Node) (start : Nat) (mustAdvance : Bool) : Nat → List Span
  | 0 => []
  | fuel + 1 =>
    match node.findFrom text start mustAdvance (text.size + 1 - start) with
    | some span => span :: node.findAllFrom span.stop (span.stop == span.start) fuel
    | none => []

end Node

/-- The spans of the successive matches of a pattern in a text, empty ones included. -/
def Node.findAll (node : Node) (text : Text) : List Span :=
  let characters := text.toArray
  node.findAllFrom characters 0 false (2 * characters.size + 2)

end TableSearch
