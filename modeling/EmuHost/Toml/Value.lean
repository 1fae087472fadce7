import EmuHost.Binary.Arithmetic

/-!
# TOML values

The values of a TOML document with the places they stand at. A place is the number of characters
that are left of the text there, so that it does not depend on what comes before; a `Defect` is a
stretch of the text and what is wrong with it.
-/

namespace EmuHost.Toml

/-- A stretch of a text: the characters left at its start and at its end. -/
structure Span where
  start : Nat
  stop : Nat
  deriving DecidableEq, Repr

/-- The stretch between two rests of a text. -/
def Span.between (start stop : List Char) : Span := ⟨start.length, stop.length⟩

/-- What is wrong with a text and where. -/
structure Defect where
  span : Span
  message : String
  deriving DecidableEq, Repr

/-- How a table came to be, which decides what may still be added to it. -/
inductive TableOrigin where
  /-- Written between braces: complete. -/
  | inline
  /-- Named on the way to another table by its header. -/
  | implied
  /-- Named on the way to a value by a dotted key. -/
  | dotted
  /-- Opened by a header of its own. -/
  | headed
  deriving DecidableEq, Repr

/-- A value. The items of an array that is `headed` were each opened by a header. Of dates and times
only the text is kept. -/
inductive Value where
  | string (s : String)
  | integer (n : Int)
  | float (x : Binary64)
  /-- A number that cannot be held, `whole` or a float: it is too large, or its digits write no
  number. It may stand where nothing looks at it. -/
  | unusable (whole : Bool)
  | boolean (b : Bool)
  | dateTime (text : String)
  | array (headed : Bool) (items : List (Span × Value))
  | table (origin : TableOrigin) (entries : List (String × Span × Value))

/-- The entries of a table; no key stands twice. -/
abbrev Table := List (String × Span × Value)

instance : Inhabited Value := ⟨.boolean false⟩

namespace Defect

/-- The number of characters before a place, and of lines and of characters in the last line. The
end of a text counts as the place after its last character. -/
def lineAndColumn (text : List Char) (left : Nat) : Nat × Nat :=
  let position := text.length - left
  let beyond := if left = 0 ∧ !text.isEmpty then 1 else 0
  let before := text.take (position - beyond)
  (before.count '\n', (before.reverse.takeWhile (· != '\n')).length + beyond)

/-- The defect with the line it is in, the place underlined. Lines and columns count from 1; the
line under the place is as long as the stretch, but at least one and within the line. -/
def render (text : List Char) (d : Defect) : String :=
  let (line, column) := lineAndColumn text d.span.start
  let number := toString (line + 1)
  let content := (text.splitOn '\n').getD line []
  let stretch := (text.drop (text.length - d.span.start)).take (d.span.start - d.span.stop)
  let byteCount (cs : List Char) : Nat := (String.ofList cs).utf8ByteSize
  let marks := max 1 (min (byteCount stretch) (byteCount content - column))
  let blank (n : Nat) : String := String.ofList (List.replicate n ' ')
  let gutter := blank (number.length + 1) ++ "|"
  "TOML parse error at line " ++ number ++ ", column " ++ toString (column + 1) ++ "\n"
    ++ gutter ++ "\n"
    ++ number ++ " | " ++ String.ofList content ++ "\n"
    ++ gutter ++ blank (column + 1) ++ String.ofList (List.replicate marks '^') ++ "\n"
    ++ d.message ++ "\n"

end Defect

/-- What reading from the start of a text gives: a result and the rest of the text. -/
abbrev Reading (α : Type) := Except Defect (α × List Char)

/-- The text between two rests is wrong. -/
def refuse {α : Type} (start stop : List Char) (message : String) : Except Defect α :=
  .error ⟨.between start stop, message⟩

/-- The next character is wrong, or its absence. -/
def refuseNext {α : Type} (rest : List Char) (message : String) : Except Defect α :=
  refuse rest (rest.drop 1) message

end EmuHost.Toml
