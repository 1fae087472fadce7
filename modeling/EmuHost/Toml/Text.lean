import EmuHost.Toml.Value

/-!
# TOML strings

The four ways to write a string. Between double quotes a backslash starts an escape; between single
quotes every character stands for itself. Three quotes open a string of several lines, whose first
line break does not count. `quoted` writes any string between double quotes.
-/

namespace EmuHost.Toml

/-- The value of a digit in a base up to sixteen. -/
def digitValue? (base : Nat) (c : Char) : Option Nat :=
  let value :=
    if '0' ≤ c ∧ c ≤ '9' then some (c.toNat - '0'.toNat)
    else if 'a' ≤ c ∧ c ≤ 'f' then some (c.toNat - 'a'.toNat + 10)
    else if 'A' ≤ c ∧ c ≤ 'F' then some (c.toNat - 'A'.toNat + 10)
    else none
  value.filter (· < base)

/-- Whether a character is a digit in a base. -/
def isDigit (base : Nat) (c : Char) : Bool := (digitValue? base c).isSome

/-- The number that a row of digits writes. -/
def numeral (base : Nat) (digits : List Char) : Nat :=
  digits.foldl (fun n c => n * base + (digitValue? base c).getD 0) 0

/-- Control characters, which no text may hold as they are. The tab is not among them. -/
def isControl (c : Char) : Bool :=
  c.toNat < 0x09 || (0x0a ≤ c.toNat && c.toNat < 0x20) || c.toNat == 0x7f

/-- Blanks within a line. -/
def isSpace (c : Char) : Bool := c == ' ' || c == '\t'

/-- Whether a rest of the text starts with a line break. -/
def startsWithBreak : List Char → Bool
  | '\n' :: _ => true
  | '\r' :: '\n' :: _ => true
  | _ => false

/-- The rest of the text after a line break, if it starts with one. -/
def dropBreak : List Char → List Char
  | '\n' :: rest => rest
  | '\r' :: '\n' :: rest => rest
  | rest => rest

/-- The character with the number that hexadecimal digits write. -/
def charOfHex? (digits : List Char) : Option Char :=
  let n := numeral 16 digits
  -- the numbers between are halves of pairs, which are no characters
  if digits.all (isDigit 16) && (n < 0xd800 || (0xdfff < n && n < 0x110000)) then
    some (Char.ofNat n)
  else none

/-- The character that one letter after a backslash stands for. -/
def escapeOf? (letter : Char) : Option Char :=
  match letter with
  | 'b' => some '\x08'
  | 't' => some '\t'
  | 'n' => some '\n'
  | 'f' => some '\x0c'
  | 'r' => some '\r'
  | 'e' => some '\x1b'
  | '\x22' => some '\x22'
  | '\\' => some '\\'
  | _ => none

/-- The end of a string of several lines, after three quotes. Of a longer row of quotes up to two
belong to the text. -/
def closing (quote : Char) : List Char → List Char × List Char
  -- the text may end with quotes of its own before the three that close it
  | a :: b :: rest =>
    if a ≠ quote then ([], a :: b :: rest)
    else if b ≠ quote then ([a], b :: rest)
    else ([a, b], rest)
  | [a] => if a = quote then ([a], []) else ([], [a])
  | [] => ([], [])

/-- Puts a character before the text that a reading gives. -/
def consText (c : Char) (r : Reading (List Char)) : Reading (List Char) :=
  r.map fun (text, rest) => (c :: text, rest)

/-- Puts the character of an escape that starts at `start` before the text that a reading gives. -/
def consEscape (start : List Char) (c : Option Char) (r : Reading (List Char)) :
    Reading (List Char) :=
  match c with
  | some c => consText c r
  | none =>
    refuseNext start ("missing escaped value, expected `b`, `e`, `f`, `n`, `r`, `\\`, `\"`, "
      ++ "`x`, `u`, `U`")

/-- A string between double quotes ends early or holds what it may not hold. -/
def refuseBasic (rest : List Char) : Reading (List Char) :=
  refuseNext rest "invalid basic string, expected `\"`"

/-- A string between single quotes ends early or holds what it may not hold. -/
def refuseLiteral (rest : List Char) : Reading (List Char) :=
  refuseNext rest "invalid literal string, expected `'`"

/-- Reads the rest of a string between double quotes, of several `lines` or of one. With `skip` the
blanks that come next are passed over: a backslash at the end of a line stands before them. -/
def basicRest (lines skip : Bool) : List Char → Reading (List Char)
  | [] => refuseBasic []
  | c :: rest =>
    -- in one line a break is a control character, see below
    if lines && startsWithBreak (c :: rest) then
      if skip then basicRest lines true rest else consText c (basicRest lines false rest)
    else if skip && isSpace c then basicRest lines true rest
    else if c = '\x22' then
      if lines then
        match rest with
        | '\x22' :: '\x22' :: rest => .ok (closing c rest)
        | _ => consText c (basicRest lines false rest)
      else .ok ([], rest)
    else if c = '\\' then
      -- the backslash may have blanks behind it before the line ends
      if lines && startsWithBreak (rest.dropWhile isSpace) then basicRest lines true rest
      else match rest with
        | 'x' :: a :: b :: after =>
          consEscape rest (charOfHex? [a, b]) (basicRest lines false after)
        | 'u' :: a :: b :: c :: d :: after =>
          consEscape rest (charOfHex? [a, b, c, d]) (basicRest lines false after)
        | 'U' :: a :: b :: c :: d :: e :: f :: g :: h :: after =>
          consEscape rest (charOfHex? [a, b, c, d, e, f, g, h]) (basicRest lines false after)
        | letter :: after => consEscape rest (escapeOf? letter) (basicRest lines false after)
        | [] => refuseBasic []
    else if isControl c then refuseBasic (c :: rest)
    else consText c (basicRest lines false rest)

/-- Reads the rest of a string between single quotes, of several `lines` or of one. -/
def literalRest (lines : Bool) : List Char → Reading (List Char)
  | [] => refuseLiteral []
  | c :: rest =>
    -- no escapes between single quotes
    if c = '\x27' then
      if lines then
        match rest with
        | '\x27' :: '\x27' :: rest => .ok (closing c rest)
        | _ => consText c (literalRest lines rest)
      else .ok ([], rest)
    else if isControl c && !(lines && startsWithBreak (c :: rest)) then refuseLiteral (c :: rest)
    else consText c (literalRest lines rest)

/-- The text that a reading gives, as a string. -/
def asString (r : Reading (List Char)) : Reading String :=
  r.map fun (text, rest) => (String.ofList text, rest)

/-- Reads a string of one line, if the text starts with one. -/
def lineString? : List Char → Option (Reading String)
  | c :: rest =>
    if c = '\x22' then some (asString (basicRest false false rest))
    else if c = '\x27' then some (asString (literalRest false rest))
    else none
  | [] => none

/-- Reads a string, if the text starts with one. -/
def string? (text : List Char) : Option (Reading String) :=
  match text with
  | '\x22' :: '\x22' :: '\x22' :: rest =>
    -- a break right behind the opening quotes is no part of the text
    some (asString (basicRest true false (dropBreak rest)))
  | '\x27' :: '\x27' :: '\x27' :: rest => some (asString (literalRest true (dropBreak rest)))
  | _ => lineString? text

/-- One digit in base sixteen, upper case. -/
def hexDigit (n : Nat) : Char :=
  if n < 10 then Char.ofNat ('0'.toNat + n) else Char.ofNat ('A'.toNat + (n - 10))

/-- A number below 65536 in four digits in base sixteen. -/
def fourHexDigits (n : Nat) : List Char :=
  [hexDigit (n / 4096 % 16), hexDigit (n / 256 % 16), hexDigit (n / 16 % 16), hexDigit (n % 16)]

/-- One character of a string between double quotes. -/
def escape (c : Char) : List Char :=
  match c with
  | '\x22' => ['\\', '\x22']
  | '\\' => ['\\', '\\']
  | '\x08' => ['\\', 'b']
  | '\t' => ['\\', 't']
  | '\n' => ['\\', 'n']
  | '\x0c' => ['\\', 'f']
  | '\r' => ['\\', 'r']
  -- the control characters with letters of their own are dealt with
  | c => if isControl c then '\\' :: 'u' :: fourHexDigits c.toNat else [c]

/-- A string between double quotes. -/
def quoted (s : String) : List Char := '\x22' :: s.toList.flatMap escape ++ ['\x22']

end EmuHost.Toml
