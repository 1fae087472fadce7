import EmuHost.Binary.Decimal
import EmuHost.Toml.Text

/-!
# TOML numbers, dates and times

The values that are written without quotes and brackets. A word is split off first (`takeWord`), and
each reader takes the whole word. Single underscores may stand between digits; decimal numbers have
no zeros in front; a float has a fraction or an exponent. Seconds may be left out of a time.

Whole decimal numbers are read loosely. Behind a row of digits and an underscore anything may
follow, and only then is it seen whether the word writes a number. A word that does not, such as
`1_2x`, is an `unusable` value and not a wrong text, and so are a mark without digits, such as `0x`,
and a number that is too large.
-/

namespace EmuHost.Toml

/-- Whether each underscore stands singly between two digits. -/
def isGrouped (digit : Char → Bool) : List Char → Bool
  | [] => true
  | '_' :: _ => false
  -- an underscore has a digit on either side; the next one may follow right behind
  | a :: '_' :: b :: rest => digit a && digit b && isGrouped digit (b :: rest)
  | _ :: rest => isGrouped digit rest

/-- A word without its underscores. -/
def ungrouped (word : List Char) : List Char := word.filter (· != '_')

/-- Whether a decimal number starts with a zero that is not its only digit. -/
def hasLeadingZero : List Char → Bool
  | '0' :: c :: _ => isDigit 10 c || c == '_'
  | _ => false

/-- A row of decimal digits, of at least one. -/
def digitRow? (word : List Char) : Option (List Char) :=
  if !word.isEmpty && word.all (isDigit 10) then some word else none

/-- The sign of a word, negative or not, and the word after it. -/
def splitSign : List Char → Bool × List Char
  | '-' :: rest => (true, rest)
  | '+' :: rest => (false, rest)
  | word => (false, word)

/-- A whole number with a sign. -/
def signed (negative : Bool) (n : Nat) : Int := if negative then -n else n

/-- Whether a whole number has a signed word of a given number of bits. -/
def isSigned (bits : Nat) (n : Int) : Bool :=
  -(Nat.pow 2 (bits - 1) : Int) ≤ n && n < (Nat.pow 2 (bits - 1) : Int)

/-- Whether a whole number has an unsigned word of a given number of bits. -/
def isUnsigned (bits : Nat) (n : Int) : Bool := 0 ≤ n && n < (Nat.pow 2 bits : Int)

/-- The whole numbers that a value can hold. -/
def isInRange (n : Int) : Bool := isSigned 128 n || isUnsigned 128 n

/-- The whole number that a word writes. A word that is empty, holds anything but digits or is too
large writes none. -/
def wholeNumber (base : Nat) (negative : Bool) (word : List Char) : Value :=
  -- the range is asked of the number with its sign
  let n := signed negative (numeral base word)
  if !word.isEmpty && word.all (isDigit base) && isInRange n then .integer n else .unusable true

/-- A whole number in a base of its own, behind the mark of the base. -/
def marked? (base : Nat) (word : List Char) : Option Value :=
  let digits := ungrouped word
  if isGrouped (isDigit base) word && digits.all (isDigit base) then
    some (wholeNumber base false digits)
  else none

/-- The exponent of a float, 0 where there is none. Zeros may stand in front. -/
def exponent? : List Char → Option Int
  | [] => some 0
  | _ :: word =>
    let (negative, rest) := splitSign word
    (digitRow? rest).map fun digits => signed negative (numeral 10 digits)

/-- The digits of a fraction, none where there is no point. -/
def fraction? : List Char → Option (List Char)
  | [] => some []
  | _ :: word => digitRow? word

/-- Whether a character opens an exponent. -/
def isExponentMark (c : Char) : Bool := c == 'e' || c == 'E'

/-- A float with a fraction, an exponent or both, without underscores. -/
def float? (negative : Bool) (word : List Char) : Option Binary64 := do
  -- first the exponent is split off, then the fraction
  let mantissa := word.takeWhile (!isExponentMark ·)
  let tail := word.dropWhile (!isExponentMark ·)
  let whole ← digitRow? (mantissa.takeWhile (· != '.'))
  let fraction ← fraction? (mantissa.dropWhile (· != '.'))
  let exponent ← exponent? tail
  -- the fraction goes into the same row of digits, and its places come off the exponent
  return .ofDecimal negative (numeral 10 (whole ++ fraction)) (exponent - fraction.length)

/-- A decimal number, with or without a sign: a float if there is a point or an exponent, else a
whole number. For the underscores a sign counts as a digit, and so do the letters up to `f` in a
whole number. -/
def decimal? (word : List Char) : Option Value :=
  let (negative, body) := splitSign word
  let isFloat := body.any fun c => c == '.' || isExponentMark c
  -- whatever there was for a sign is a digit as far as underscores are concerned
  let row := if body.length = word.length then body else '0' :: body
  if body.isEmpty || hasLeadingZero body
      || !isGrouped (isDigit (if isFloat then 10 else 16)) row then
    none
  else if isFloat then
    (float? negative (ungrouped body)).map fun x => if x.isFinite then .float x else .unusable false
  else
    -- digits come first; behind an underscore stands whatever the grouping has let pass
    match body.dropWhile (isDigit 10) with
    | [] | '_' :: _ => some (wholeNumber 10 negative (ungrouped body))
    | _ => none

/-- The number that a row of exactly `count` decimal digits writes. -/
def digits? (count : Nat) (word : List Char) : Option Nat :=
  if word.length = count ∧ word.all (isDigit 10) then some (numeral 10 word) else none

/-- How many days a month has. -/
def daysInMonth (year month : Nat) : Nat :=
  if month = 2 then
    -- a leap year
    if year % 4 = 0 ∧ (year % 100 ≠ 0 ∨ year % 400 = 0) then 29 else 28
  else if month = 4 ∨ month = 6 ∨ month = 9 ∨ month = 11 then 30 else 31

/-- A day of the calendar: `YYYY-MM-DD`. -/
def isDate (word : List Char) : Bool :=
  match word.splitOn '-' with
  | [y, m, d] =>
    match digits? 4 y, digits? 2 m, digits? 2 d with
    | some year, some month, some day =>
      1 ≤ month && month ≤ 12 && 1 ≤ day && day ≤ daysInMonth year month
    | _, _, _ => false
  | _ => false

/-- Whether a row of exactly two digits writes a number up to a limit. -/
def isUpTo (limit : Nat) (word : List Char) : Bool :=
  match digits? 2 word with
  | some n => n ≤ limit
  | none => false

/-- Seconds, with or without a fraction. -/
def isSeconds (word : List Char) : Bool :=
  match word.splitOn '.' with
  | [s] => isUpTo 60 s
  | [s, fraction] => isUpTo 60 s && !fraction.isEmpty && fraction.all (isDigit 10)
  | _ => false

/-- A time of the day: `HH:MM` or `HH:MM:SS`. -/
def isTime (word : List Char) : Bool :=
  match word.splitOn ':' with
  | [h, m] => isUpTo 23 h && isUpTo 59 m
  | [h, m, s] => isUpTo 23 h && isUpTo 59 m && isSeconds s
  | _ => false

/-- The distance of a time zone: `HH:MM`. -/
def isOffset (word : List Char) : Bool :=
  match word.splitOn ':' with
  | [h, m] => isUpTo 23 h && isUpTo 59 m
  | _ => false

/-- A time of the day with or without a time zone. -/
def isZonedTime (word : List Char) : Bool :=
  let isSign (c : Char) : Bool := c == '+' || c == '-'
  -- a zone is a letter at the end or starts with a sign, of which the time itself has none
  match word.getLast? with
  | some 'Z' | some 'z' => isTime word.dropLast
  | _ =>
    match word.dropWhile (!isSign ·) with
    | _ :: offset => isTime (word.takeWhile (!isSign ·)) && isOffset offset
    | [] => isTime word

/-- A date, a time, or both with a mark between. -/
def isDateTime (word : List Char) : Bool :=
  isDate word || isTime word ||
    -- a date has ten characters, so the mark is the eleventh
    match word.drop 10 with
    | mark :: time =>
      (mark == 'T' || mark == 't' || mark == ' ') && isDate (word.take 10) && isZonedTime time
    | [] => false

/-- The value that a whole word writes. Infinity and the value that is no number are words of their
own, with or without a sign. -/
def scalar? (word : List Char) : Option Value :=
  match word with
  | ['t', 'r', 'u', 'e'] => some (.boolean true)
  | ['f', 'a', 'l', 's', 'e'] => some (.boolean false)
  | '0' :: 'x' :: rest => marked? 16 rest
  | '0' :: 'o' :: rest => marked? 8 rest
  | '0' :: 'b' :: rest => marked? 2 rest
  | _ =>
    let (negative, body) := splitSign word
    match body with
    | ['i', 'n', 'f'] => some (.float (.infinite negative))
    | ['n', 'a', 'n'] => some (.float .nan)
    | _ =>
      -- a date starts like a number
      if isDateTime word then some (.dateTime (String.ofList word))
      else decimal? word

/-- The characters of words: all but blanks, line ends and the marks around values. -/
def isWordChar (c : Char) : Bool :=
  !([' ', '\t', '\r', '\n', '=', ',', '[', ']', '\x7b', '\x7d', '#'].contains c)

/-- Whether a time starts here. -/
def startsTime : List Char → Bool
  | a :: b :: ':' :: _ => isDigit 10 a && isDigit 10 b
  | _ => false

/-- The word that the text starts with and the rest. A blank between a date and a time is part of
the word. -/
def takeWord (text : List Char) : List Char × List Char :=
  let word := text.takeWhile isWordChar
  match text.dropWhile isWordChar with
  | ' ' :: rest =>
    -- a blank ends the word, unless a time follows a date
    if isDate word && startsTime rest then
      (word ++ ' ' :: rest.takeWhile isWordChar, rest.dropWhile isWordChar)
    else (word, ' ' :: rest)
  | rest => (word, rest)

/-- Reads a value that is written as a word. -/
def scalar (text : List Char) : Reading Value :=
  let (word, rest) := takeWord text
  match scalar? word with
  | some v => .ok (v, rest)
  | none =>
    -- without a word one character is marked, which starts no value
    refuse text (if word.isEmpty then text.drop 1 else rest)
      "string values must be quoted, expected literal string"

/-- A float as it is written: the digits of its shortest decimal, with a fraction. -/
def floatText {f : Format} (x : Binary f) : String :=
  match x with
  | .nan => "nan"
  | .infinite negative => if negative then "-inf" else "inf"
  -- without a point it would be read as a whole number
  | .finite .. => if x.text.contains '.' then x.text else x.text ++ ".0"

end EmuHost.Toml
