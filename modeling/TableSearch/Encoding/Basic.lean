import TableSearch.Text.Quoted
import TableSearch.Text.Case

/-! # Text encodings

An `Encoding` reads bytes as text, all at once or piece by piece.  A `DecodeError` says which bytes are
no character, counted from the first byte behind the byte order mark.
-/

namespace TableSearch

/-- Why some bytes are no character. -/
inductive DecodeProblem where
  | invalidStart
  | invalidContinuation
  /-- The text ends inside half of a surrogate pair. -/
  | cutSurrogate
  | unexpectedEnd
  | notAscii
  | undefinedByte
  | truncated
  | loneLowSurrogate
  | brokenSurrogatePair
  | other (wording : String)
deriving DecidableEq, Repr

namespace DecodeProblem

/-- The wording of a problem. -/
def message : DecodeProblem → String
  | invalidStart => "invalid start byte"
  | invalidContinuation | cutSurrogate => "invalid continuation byte"
  | unexpectedEnd => "unexpected end of data"
  | notAscii => "ordinal not in range(128)"
  | undefinedByte => "character maps to <undefined>"
  | truncated => "truncated data"
  | loneLowSurrogate => "illegal encoding"
  | brokenSurrogatePair => "illegal UTF-16 surrogate"
  | other wording => wording

/-- Whether more bytes could still make a character. -/
def isIncomplete : DecodeProblem → Bool
  | cutSurrogate | unexpectedEnd | truncated => true
  | _ => false

end DecodeProblem

/-- Why bytes could not be read in an encoding. -/
inductive DecodeError where
  /-- The bytes from `start` on are no character of the encoding with the given name. -/
  | bytes (codec : String) (offending : List UInt8) (start : Nat) (problem : DecodeProblem)
  /-- The bytes are refused, but not for some of them. -/
  | refused (wording : String)
deriving DecidableEq, Repr

namespace DecodeError

/-- The wording of an error. -/
def message : DecodeError → String
  | bytes codec offending start problem =>
    "'" ++ codec ++ "' codec can't decode " ++
      (match offending with
        | [byte] =>
          "byte 0x" ++ (Text.hexDigits byte.toNat 2).toString ++ " in position " ++ toString start
        | _ =>
          "bytes in position " ++ toString start ++ "-" ++
            toString (start + offending.length - 1)) ++ ": " ++ problem.message
  | refused wording => wording

/-- The byte order mark of UTF-16 is missing. -/
def missingMark : DecodeError := refused "UTF-16 stream does not start with BOM"

/-- The error as it is met when the text is read piece by piece: an incomplete character at the end
is a piece of its own. -/
def inPieces : DecodeError → DecodeError
  | bytes codec offending start problem =>
    bytes codec offending (if problem.isIncomplete then 0 else start) problem
  | refused wording => refused wording

end DecodeError

/-- A text encoding. -/
structure Encoding where
  /-- The text of bytes that are read at once. -/
  decode : List UInt8 → Except DecodeError Text
  /-- The text of bytes that are read piece by piece. -/
  decodeInPieces : List UInt8 → Except DecodeError Text

namespace Encoding

/-! ## UTF-8 -/

/-- Whether a byte continues a character. -/
def isContinuation (byte : UInt8) : Bool :=
  0x80 ≤ byte && byte ≤ 0xBF

/-- The character with the given leading bits and continuation bytes. -/
def assemble (lead : UInt8) (tail : List UInt8) : Char :=
  let mask : Nat := if tail.length = 1 then 0x20 else if tail.length = 2 then 0x10 else 0x08
  Char.ofNat (tail.foldl (fun code byte => 64 * code + byte.toNat % 64) (lead.toNat % mask))

/-- How many bytes follow a leading byte, and the bounds of the first of them. -/
def continuation? (lead : UInt8) : Option (Nat × UInt8 × UInt8) :=
  if 0xC2 ≤ lead && lead ≤ 0xDF then some (1, 0x80, 0xBF)
  else if lead = 0xE0 then some (2, 0xA0, 0xBF)
  else if lead = 0xED then some (2, 0x80, 0x9F)
  else if 0xE1 ≤ lead && lead ≤ 0xEF then some (2, 0x80, 0xBF)
  else if lead = 0xF0 then some (3, 0x90, 0xBF)
  else if 0xF1 ≤ lead && lead ≤ 0xF3 then some (3, 0x80, 0xBF)
  else if lead = 0xF4 then some (3, 0x80, 0x8F)
  else none

/-- The bytes that continue a character, out of the bytes behind its first one. -/
def goodTail (count : Nat) (low high : UInt8) (rest : List UInt8) : List UInt8 :=
  match rest.take count with
  | [] => []
  | first :: more =>
    if low ≤ first && first ≤ high then first :: more.takeWhile isContinuation else []

/-- The text of UTF-8 bytes that begin at an offset.  The number bounds the characters. -/
def decodeUtf8 (offset : Nat) (bytes : List UInt8) : Nat → Except DecodeError Text
  | 0 => .ok []
  | rounds + 1 =>
    match bytes with
    | [] => .ok []
    | lead :: rest =>
      let refuse (length : Nat) (problem : DecodeProblem) : Except DecodeError Text :=
        .error (.bytes "utf-8" ((lead :: rest).take length) offset problem)
      if lead < 0x80 then do
        return Char.ofNat lead.toNat :: (← decodeUtf8 (offset + 1) rest rounds)
      else
        match continuation? lead with
        | none => refuse 1 .invalidStart
        | some (count, low, high) =>
          let tail := goodTail count low high rest
          if tail.length = count then do
            return assemble lead tail ::
              (← decodeUtf8 (offset + 1 + count) (rest.drop count) rounds)
          else if tail.length = rest.length then refuse (1 + tail.length) .unexpectedEnd
          else if lead = 0xED && rest.length = 1 && rest.all isContinuation then
            refuse 1 .cutSurrogate
          else refuse (1 + tail.length) .invalidContinuation

/-! ## Encodings with one byte for a character -/

/-- The characters of the bytes from 128 to 159; some bytes have none. -/
def windowsCodes : List Nat :=
  [0x20AC, 0, 0x201A, 0x0192, 0x201E, 0x2026, 0x2020, 0x2021, 0x02C6, 0x2030, 0x0160, 0x2039,
    0x0152, 0, 0x017D, 0, 0, 0x2018, 0x2019, 0x201C, 0x201D, 0x2022, 0x2013, 0x2014, 0x02DC, 0x2122,
    0x0161, 0x203A, 0x0153, 0, 0x017E, 0x0178]

/-- The character of a byte in the Windows encoding. -/
def windowsChar? (byte : UInt8) : Option Char :=
  if byte < 0x80 || 0xA0 ≤ byte then some (Char.ofNat byte.toNat)
  else
    match windowsCodes[byte.toNat - 0x80]? with
    | none | some 0 => none
    | some code => some (Char.ofNat code)

/-- The text of bytes that stand for one character each. -/
def decodeBytes (codec : String) (problem : DecodeProblem) (char? : UInt8 → Option Char)
    (offset : Nat) : List UInt8 → Except DecodeError Text
  | [] => .ok []
  | byte :: rest => do
    match char? byte with
    | none => .error (.bytes codec [byte] offset problem)
    | some c => return c :: (← decodeBytes codec problem char? (offset + 1) rest)

/-! ## UTF-16 -/

/-- The text of UTF-16 bytes that begin at an offset. -/
def decodeUtf16 (big : Bool) (offset : Nat) : List UInt8 → Except DecodeError Text
  | [] => .ok []
  | [byte] => .error (.bytes (codec big) [byte] offset .truncated)
  | a :: b :: rest =>
    let first := unit big a b
    if 0xDC00 ≤ first && first ≤ 0xDFFF then
      .error (.bytes (codec big) [a, b] offset .loneLowSurrogate)
    else if 0xD800 ≤ first && first ≤ 0xDBFF then
      match rest with
      | c :: d :: later => do
        let second := unit big c d
        if 0xDC00 ≤ second && second ≤ 0xDFFF then
          return Char.ofNat (0x10000 + (first - 0xD800) * 0x400 + (second - 0xDC00)) ::
            (← decodeUtf16 big (offset + 4) later)
        else .error (.bytes (codec big) [a, b] offset .brokenSurrogatePair)
      | _ => .error (.bytes (codec big) (a :: b :: rest) offset .unexpectedEnd)
    else do
      return Char.ofNat first :: (← decodeUtf16 big (offset + 2) rest)
where
  /-- The name of the encoding. -/
  codec (big : Bool) : String := if big then "utf-16-be" else "utf-16-le"
  /-- The code unit of two bytes. -/
  unit (big : Bool) (a b : UInt8) : Nat :=
    if big then 256 * a.toNat + b.toNat else 256 * b.toNat + a.toNat

/-- Whether bytes begin with a byte order mark of UTF-16. -/
def isMarked (bytes : List UInt8) : Bool :=
  [0xFF, 0xFE].isPrefixOf bytes || [0xFE, 0xFF].isPrefixOf bytes

/-- The text of UTF-16 bytes behind a byte order mark that says which byte comes first. -/
def decodeMarked (bytes : List UInt8) : Except DecodeError Text :=
  match bytes with
  | 0xFF :: 0xFE :: rest => decodeUtf16 false 2 rest
  | 0xFE :: 0xFF :: rest => decodeUtf16 true 2 rest
  | _ =>
    match decodeUtf16 false 0 bytes with
    | .ok [] => .ok []
    | .ok _ => .error .missingMark
    | .error error => .error error

/-! ## The encodings -/

/-- The encoding whose bytes are decoded in the same way in pieces as at once. -/
def ofDecoder (decode : List UInt8 → Except DecodeError Text) : Encoding where
  decode := decode
  decodeInPieces bytes := (decode bytes).mapError DecodeError.inPieces

def utf8 : Encoding :=
  ofDecoder fun bytes => decodeUtf8 0 bytes bytes.length

/-- UTF-8 with a byte order mark that is skipped. -/
def utf8Marked : Encoding :=
  ofDecoder fun bytes =>
    match bytes with
    | 0xEF :: 0xBB :: 0xBF :: rest => decodeUtf8 0 rest rest.length
    | _ => decodeUtf8 0 bytes bytes.length

def ascii : Encoding :=
  ofDecoder (decodeBytes "ascii" .notAscii
    (fun byte => if byte < 0x80 then some (Char.ofNat byte.toNat) else none) 0)

def latin1 : Encoding :=
  ofDecoder
    (decodeBytes "latin-1" .undefinedByte (fun byte => some (Char.ofNat byte.toNat)) 0)

def windows1252 : Encoding :=
  ofDecoder (decodeBytes "charmap" .undefinedByte windowsChar? 0)

/-- UTF-16 with the low byte first. -/
def utf16Little : Encoding :=
  ofDecoder (decodeUtf16 false 0)

/-- UTF-16 with the high byte first. -/
def utf16Big : Encoding :=
  ofDecoder (decodeUtf16 true 0)

/-- UTF-16 with a byte order mark.  In pieces, a missing mark is noticed before an incomplete character
at the end. -/
def utf16Marked : Encoding where
  decode := decodeMarked
  decodeInPieces bytes :=
    (decodeMarked bytes).mapError fun error =>
      match error with
      | .bytes _ _ start problem =>
        if !isMarked bytes && problem.isIncomplete && 2 ≤ start then .missingMark else error.inPieces
      | .refused wording => .refused wording

end Encoding

namespace Text

/-- The UTF-8 bytes of a text. -/
def encode (text : Text) : List UInt8 :=
  (String.ofList text).toUTF8.toList

/-- Every line break as a line feed. -/
def unifyLineBreaks : Text → Text
  | [] => []
  | '\r' :: '\n' :: rest => '\n' :: unifyLineBreaks rest
  | '\r' :: rest => '\n' :: unifyLineBreaks rest
  | c :: rest => c :: unifyLineBreaks rest

end Text

end TableSearch
