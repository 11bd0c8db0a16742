import Mathlib.Algebra.Ring.Nat
import Mathlib.Data.List.Basic

/-!
# Text

Text is a list of characters. These are the functions of Rust's `str` that the
program reads bodies and headers with, as its documentation describes them.
-/

namespace Text

/-- `char::is_whitespace`: the Unicode property `White_Space`. -/
def isWhitespace (character : Char) : Bool :=
  let code := character.toNat
  (9 ≤ code && code ≤ 13) || code = 32 || code = 0x85 || code = 0xA0 || code = 0x1680 ||
    (0x2000 ≤ code && code ≤ 0x200A) || code = 0x2028 || code = 0x2029 || code = 0x202F ||
    code = 0x205F || code = 0x3000

/-- `str::trim`. -/
def trim (text : List Char) : List Char :=
  ((text.dropWhile isWhitespace).reverse.dropWhile isWhitespace).reverse

/-- `str::trim_start`. -/
def trimStart (text : List Char) : List Char := text.dropWhile isWhitespace

/-- `str::trim_end_matches` for one character. -/
def trimEndMatches (character : Char) (text : List Char) : List Char :=
  (text.reverse.dropWhile (· == character)).reverse

/-- `str::to_ascii_lowercase`. -/
def toAsciiLowercase (text : List Char) : List Char := text.map Char.toLower

/-- Lower case stays as it is. -/
theorem toLower_toLower (character : Char) : character.toLower.toLower = character.toLower := by
  unfold Char.toLower
  split
  · rename_i upper
    split
    · rename_i again
      have atLeast := UInt32.le_iff_toNat_le.mp upper.1
      have atMost := UInt32.le_iff_toNat_le.mp upper.2
      have shifted := UInt32.le_iff_toNat_le.mp again.2
      simp at atLeast atMost shifted
      omega
    · rfl
  · rfl

/-- Lowering twice is once. -/
theorem toAsciiLowercase_lowercase (text : List Char) :
    toAsciiLowercase (toAsciiLowercase text) = toAsciiLowercase text := by
  rw [toAsciiLowercase, toAsciiLowercase, List.map_map]
  exact List.map_congr_left fun character _ => toLower_toLower character

/-- What follows the first occurrence of a pattern: `str::find`, then the slice
from the end of what it found. -/
def afterFirst (pattern : List Char) : List Char → Option (List Char)
  | [] => if pattern.isEmpty then some [] else none
  | character :: rest =>
      if pattern.isPrefixOf (character :: rest) then
        some ((character :: rest).drop pattern.length)
      else afterFirst pattern rest

/-- `str::parse::<u64>`: one optional plus sign, then digits and nothing else, and
a value that fits. -/
def parseU64 (text : List Char) : Option Nat :=
  let digits := if text.head? = some '+' then text.tail else text
  if digits.isEmpty || !digits.all Char.isDigit then none
  else
    let value := digits.foldl (fun sum digit => sum * 10 + (digit.toNat - 48)) 0
    if value < 2 ^ 64 then some value else none

/-- Remove one trailing carriage return. -/
def stripReturn (line : List Char) : List Char :=
  if line.getLast? = some '\r' then line.dropLast else line

/-- The loop of `str::lines`, with the current line. A line ends at a line feed, and
a carriage return before it belongs to the ending; what follows the last line feed
is a line of its own, as it stands, unless it is empty. -/
def linesFrom (current : List Char) : List Char → List (List Char)
  | [] => if current.isEmpty then [] else [current]
  | character :: rest =>
      if character = '\n' then stripReturn current :: linesFrom [] rest
      else linesFrom (current ++ [character]) rest

/-- `str::lines`. -/
def lines (text : List Char) : List (List Char) := linesFrom [] text

/-- A text without a line feed is one line, up to the first line feed after it. -/
theorem linesFrom_line {current text rest : List Char} (whole : '\n' ∉ text) :
    linesFrom current (text ++ '\n' :: rest) =
      stripReturn (current ++ text) :: linesFrom [] rest := by
  induction text generalizing current with
  | nil => rw [List.append_nil, List.nil_append, linesFrom, if_pos rfl]
  | cons character later inductionHypothesis =>
    have other : character ≠ '\n' := fun same => whole (same ▸ List.mem_cons_self)
    rw [List.cons_append, linesFrom, if_neg other,
      inductionHypothesis fun member => whole (List.mem_cons_of_mem _ member), List.append_assoc,
      List.singleton_append]

/-- `str::strip_prefix`. -/
def stripStart (start text : List Char) : Option (List Char) :=
  if start.isPrefixOf text then some (text.drop start.length) else none

/-- `[&str]::join`. -/
def join (separator : List Char) (parts : List (List Char)) : List Char :=
  (parts.intersperse separator).flatten

/-- `str::as_bytes`. -/
def asBytes (text : List Char) : List UInt8 := text.flatMap String.utf8EncodeChar

/-- The text that bytes are the UTF-8 encoding of, if they are. -/
def fromUtf8 (bytes : List UInt8) : Option (List Char) :=
  bytes.toByteArray.utf8Decode?.map Array.toList

/-- Text survives its bytes. -/
theorem fromUtf8_asBytes (text : List Char) : fromUtf8 (asBytes text) = some text := by
  have decoded : text.utf8Encode.utf8Decode? = some text.toArray := List.utf8Decode?_utf8Encode
  unfold fromUtf8 asBytes
  exact (congrArg (Option.map Array.toList) decoded).trans (congrArg some List.toList_toArray)

end Text
