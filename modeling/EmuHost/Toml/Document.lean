import EmuHost.Toml.Number
import EmuHost.Toml.Table

/-!
# TOML documents

Reads a document line by line: blank lines and comments, headers, and keys with their values. Arrays
and inline tables may span lines and hold comments; they nest at most `maxDepth` deep.
-/

namespace EmuHost.Toml

/-- How deep arrays and inline tables may nest. -/
def maxDepth : Nat := 80

/-- How many keys a dotted key may join. -/
def maxKeys : Nat := 80

/-- The rest of the text after the blanks of a line. -/
def skipSpaces (text : List Char) : List Char := text.dropWhile isSpace

/-- The rest of the text after a comment, if it starts with one. -/
def skipComment (text : List Char) : List Char :=
  match text with
  | '#' :: rest => rest.dropWhile (!isControl ·)
  | _ => text

/-- The rest of the text after blanks, line breaks and comments; `inComment` is for the rest of a
comment. -/
def skipBlanks (inComment : Bool) : List Char → List Char
  | [] => []
  | c :: rest =>
    -- a comment ends with its line
    if startsWithBreak (c :: rest) then skipBlanks false rest
    else if inComment then if isControl c then c :: rest else skipBlanks true rest
    else if isSpace c then skipBlanks false rest
    else if c = '#' then skipBlanks true rest
    else c :: rest

/-- The characters of keys that are written without quotes. -/
def isKeyChar (c : Char) : Bool := c.isAlphanum || c == '_' || c == '-'

/-- Reads a key without dots. -/
def key (text : List Char) : Reading Key :=
  match lineString? text with
  | some reading => reading.map fun (s, rest) => (⟨s, .between text rest⟩, rest)
  | none =>
    let word := text.takeWhile isKeyChar
    let rest := text.dropWhile isKeyChar
    if word.isEmpty then refuseNext text "missing key, expected identifier"
    else .ok (⟨String.ofList word, .between text rest⟩, rest)

/-- Reads a key of at most `limit` keys with dots between: the keys before the last dot and the last
key. -/
def dottedKey : (limit : Nat) → List Char → Except Defect ((List Key × Key) × List Char)
  | 0, text => refuseNext text "cannot recurse further; max recursion depth met"
  | limit + 1, text => do
    let (first, rest) ← key text
    -- blanks around the dot belong to neither key
    match skipSpaces rest with
    | '.' :: after =>
      let ((path, last), rest) ← dottedKey limit (skipSpaces after)
      return ((first :: path, last), rest)
    | _ => return (([], first), rest)

/-- Reads the sign between a key and its value with what `skip` passes over around it. -/
def equals (skip : List Char → List Char) (text : List Char) : Except Defect (List Char) :=
  match skip text with
  | '=' :: rest => .ok (skip rest)
  | rest => refuseNext rest "key with no value, expected `=`"

/-- Puts the end of an array or inline table after its items. -/
def closeWith {α : Type} (mark : Char) (message : String) (done : α)
    (more : List Char → Reading α) (text : List Char) : Reading α :=
  match skipBlanks false text with
  | c :: rest =>
    if c = mark then .ok (done, rest)
    -- the end may come right behind a comma
    else if c = ',' then more rest
    else refuseNext (c :: rest) message
  | [] => refuseNext [] message

mutual

/-- Reads a value. The fuel is at least twice the number of characters of the value. -/
def value (fuel depth : Nat) (text : List Char) : Except Defect (Value × List Char) :=
  match string? text with
  | some reading => reading.map fun (s, rest) => (.string s, rest)
  | none =>
    match text, fuel, depth with
    | '[' :: rest, fuel + 1, depth + 1 => do
      let (items, rest) ← arrayItems fuel depth [] rest
      return (.array false items, rest)
    | '\x7b' :: rest, fuel + 1, depth + 1 => do
      let (entries, rest) ← inlineEntries fuel depth Table.empty rest
      return (.table .inline entries, rest)
    -- the fuel lasts for any text, so it is the depth that is used up
    | '[' :: _, _, _ | '\x7b' :: _, _, _ =>
      refuseNext text "cannot recurse further; max recursion depth met"
    | _, _, _ => scalar text

/-- Reads the items of an array from the opening bracket or a comma on. -/
def arrayItems (fuel depth : Nat) (items : List (Span × Value)) (text : List Char) :
    Except Defect (List (Span × Value) × List Char) :=
  match fuel, skipBlanks false text with
  | _, ']' :: rest => .ok (items, rest)
  | _, [] => refuseNext [] "unclosed array, expected `]`"
  | 0, start => refuseNext start "unclosed array, expected `]`"
  | fuel + 1, start => do
    let (v, rest) ← value fuel depth start
    -- where the item starts and ends is kept for the messages
    let items := items ++ [(.between start rest, v)]
    closeWith ']' "missing comma between array elements, expected `,`" items
      (arrayItems fuel depth items) rest

/-- Reads the entries of an inline table from the opening brace or a comma on. -/
def inlineEntries (fuel depth : Nat) (table : Table) (text : List Char) :
    Except Defect (Table × List Char) :=
  match fuel, skipBlanks false text with
  | _, '\x7d' :: rest => .ok (table, rest)
  | _, [] => refuseNext [] "unclosed inline table, expected `\x7d`"
  | 0, start => refuseNext start "unclosed inline table, expected `\x7d`"
  | fuel + 1, start => do
    let ((path, last), rest) ← dottedKey maxKeys start
    let start ← equals (skipBlanks false) rest
    let (v, rest) ← value fuel depth start
    -- dotted keys may share a part of their way, so each entry is added to the table so far
    let table ← table.assign path last (.between start rest, v)
    closeWith '\x7d' "missing comma between key-value pairs, expected `,`" table
      (inlineEntries fuel depth table) rest

end

/-- What is read of a document: its tables and the way to the one that is open. -/
structure Draft where
  table : Table := Table.empty
  path : List Key := []

namespace Draft

/-- Reads a header. -/
def header (draft : Draft) (text : List Char) : Except Defect (Draft × List Char) := do
  let isItem := text.head? == some '[' && text.tail.head? == some '['
  let start := skipSpaces (text.drop (if isItem then 2 else 1))
  let ((path, last), rest) ← dottedKey maxKeys start
  match isItem, skipSpaces rest with
  | false, ']' :: rest =>
    return (⟨← draft.table.openTable path last (.between text rest), path ++ [last]⟩, rest)
  | true, ']' :: ']' :: rest =>
    return (⟨← draft.table.openItem path last (.between text rest), path ++ [last]⟩, rest)
  | false, rest => refuseNext rest "unclosed table, expected `]`"
  | true, rest => refuseNext rest "unclosed array table, expected `]]`"

/-- Reads a key and its value into the open table. -/
def entry (draft : Draft) (text : List Char) : Except Defect (Draft × List Char) := do
  let ((path, last), rest) ← dottedKey maxKeys text
  let start ← equals skipSpaces rest
  let (v, rest) ← value (2 * start.length) maxDepth start
  let assign := Table.assign path last (.between start rest, v)
  -- an array that the header has opened is entered at its last item
  let table ← draft.table.reach .header assign draft.path
  return ({ draft with table }, rest)

/-- Reads what stands in a line before its comment. -/
def line (draft : Draft) (text : List Char) : Reading Draft :=
  match text with
  | [] => .ok (draft, text)
  | c :: _ =>
    -- a bracket opens a header, since no key starts with one
    if c = '[' then draft.header text
    else if c = '#' || startsWithBreak text then .ok (draft, text)
    else draft.entry text

/-- Reads lines to the end of the text. The fuel is more than the number of lines. -/
def lines : (fuel : Nat) → Draft → List Char → Except Defect Draft
  | 0, draft, _ => .ok draft
  | fuel + 1, draft, text => do
    let (draft, rest) ← draft.line (skipSpaces text)
    let rest := skipComment (skipSpaces rest)
    if rest.isEmpty then return draft
    else if startsWithBreak rest then lines fuel draft (dropBreak rest)
    else refuseNext rest "unexpected key or value, expected newline, `#`"

end Draft

/-- The table of a document. A byte order mark at its start is passed over. -/
def read (text : List Char) : Except Defect Table := do
  -- the mark says how the text was encoded and is no part of it
  let body := if text.head? = some '\ufeff' then text.tail else text
  let draft ← ({} : Draft).lines (body.length + 1) body
  return draft.table

end EmuHost.Toml
