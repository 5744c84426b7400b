import TableSearch.Text.Case
import TableSearch.Instant.Basic

/-! # Instants inside a text

What a date is, is decided by a `DateReader`: a function from texts to resolutions.  This module
says which texts are handed to it.

* `Instant.readWhole?` reads a whole text.
* `Instant.scan?` reads the longest instant that a text begins with.  It tries the `openings` of the
  text: up to six words of the first line, the last of them whole or cut before a punctuation mark.
-/

namespace TableSearch

/-- A reading of texts as dates. -/
abbrev DateReader := Text → Option Resolution

namespace Instant

/-- The most words that an instant may have. -/
def wordLimit : Nat := 6

/-- The marks before which a word may be cut. -/
def isCut (c : Char) : Bool :=
  ",;.)]-/".toList.contains c

/-- The marks that are looked through at the ends of a word. -/
def edgeMarks : Text := ",;.)]-/([".toList

/-- Whether a text begins with four ASCII digits and no fifth. -/
def startsYear : Text → Bool
  | a :: b :: c :: d :: rest =>
    isDigit a && isDigit b && isDigit c && isDigit d && !rest.head?.any isDigit
  | _ => false

/-- How many years a text holds: four digits that are no part of a longer word to the left or of a
longer number to the right.  `previous` is the character before the text. -/
def countYears (previous : Option Char) : Text → Nat
  | [] => 0
  | c :: rest =>
    (if !previous.any CharClass.isWord && startsYear (c :: rest) then 1 else 0) +
      countYears (some c) rest

/-- Whether a text has three letters in a row. -/
def hasLetters : Text → Bool
  | a :: b :: c :: rest =>
    (CharClass.isLetter a && CharClass.isLetter b && CharClass.isLetter c) ||
      hasLetters (b :: c :: rest)
  | _ => false

/-- Whether a text has a digit, a colon and two digits in a row. -/
def hasTime : Text → Bool
  | a :: b :: c :: d :: rest =>
    (isDigit a && b == ':' && isDigit c && isDigit d) || hasTime (b :: c :: d :: rest)
  | _ => false

/-- Whether a text has a digit and then twice a colon and two digits in a row. -/
def hasSeconds : Text → Bool
  | a :: rest =>
    (match a :: rest with
      | h :: x :: m₁ :: m₂ :: y :: s₁ :: s₂ :: _ =>
        isDigit h && x == ':' && isDigit m₁ && isDigit m₂ && y == ':' && isDigit s₁ && isDigit s₂
      | _ => false) || hasSeconds rest
  | [] => false

/-- Whether a text has the shape of one date: a year, a time or a word, and no second year. -/
def looksLikeDate (text : Text) : Bool :=
  let years := countYears none text
  years ≤ 1 && (years = 1 || hasTime text || hasLetters text)

/-- Whether a word is `am` or `pm`, with or without points. -/
def isHalfOfDay (word : Text) : Bool :=
  match word with
  | c :: rest =>
    ['a', 'A', 'p', 'P'].contains c &&
      match (if rest.head? = some '.' then rest.drop 1 else rest) with
      | [m] => m == 'm' || m == 'M'
      | [m, point] => (m == 'm' || m == 'M') && point == '.'
      | _ => false
  | [] => false

/-- The instant that a text without blanks at its ends is as a whole. -/
def readTrimmed? (read : DateReader) (text : Text) : Option Instant :=
  if looksLikeDate text then
    (read text).bind (ofResolution? text (hasSeconds text))
  else none

/-- The instant that a text is as a whole. -/
def readWhole? (read : DateReader) (text : Text) : Option Instant :=
  if text.isEmpty || Text.trim text ≠ text then none else readTrimmed? read text

/-- Whether a word can begin or end a date: it has a digit, is a half of the day, or names a date
by itself. -/
def bearsDate (read : DateReader) (word : Text) : Bool :=
  let core := Text.trimMarks edgeMarks word
  !core.isEmpty &&
    (core.any isDigit || isHalfOfDay core || (looksLikeDate core && (read core.lower).isSome))

/-- The words of a line, each with all that stands before it. -/
def wordsWithHeads (before : Text) (line : Text) : List (Text × Text) :=
  let gap := line.takeWhile CharClass.isBlank
  match _nonblank : line.dropWhile CharClass.isBlank with
  | [] => []
  | c :: rest =>
    let head := before ++ gap
    let word := c :: rest.takeWhile (!CharClass.isBlank ·)
    (head, word) :: wordsWithHeads (head ++ word) (rest.dropWhile (!CharClass.isBlank ·))
termination_by line.length
decreasing_by
  have h₁ := (List.dropWhile_sublist (l := line) CharClass.isBlank).length_le
  have h₂ := (List.dropWhile_sublist (l := rest) (!CharClass.isBlank ·)).length_le
  rw [_nonblank] at h₁
  simp only [List.length_cons] at h₁
  omega

/-- The ends that a last word may have, longest first: the whole word, unless it ends in a mark and
is no half of the day, and its parts before the marks inside it. -/
def wordCuts (word : Text) : List Text :=
  let whole := if !word.getLast?.any isCut || isHalfOfDay word then [word] else []
  let places := (List.range word.length).filter fun i => 0 < i && word[i]?.any isCut
  whole ++ places.reverse.map word.take

/-- The texts that may be an instant at the start of a line, longest first, each as what stands
before its last word and that word. -/
def openings (line : Text) : List (Text × Text) :=
  ((wordsWithHeads [] line).take wordLimit).reverse.flatMap fun (head, word) =>
    (wordCuts word).map (head, ·)

/-- The longest instant that a text begins with. -/
def scan? (read : DateReader) (text : Text) : Option Instant :=
  let line := text.takeWhile (· ≠ '\n')
  match line with
  | [] => none
  | c :: _ =>
    if CharClass.isBlank c then none
    else if bearsDate read (line.takeWhile (!CharClass.isBlank ·)) then
      (openings line).findSome? fun (head, last) =>
        if bearsDate read last then readTrimmed? read (head ++ last) else none
    else none

/-- The longest instant at an offset of a text. -/
def scanAt? (read : DateReader) (text : Text) (start : Nat) : Option Instant :=
  scan? read (text.drop start)

end Instant

end TableSearch
