import EmuHost.Settings.Basic
import EmuHost.Text.Quoted
import EmuHost.Toml.Document

/-!
# Settings as TOML

How single settings are written in a configuration file and read from it (`Setting`), and records of
settings as lists of their fields (`Field`). A record is read over a start value: a field that the
file does not name keeps its value there, and a name that is no field is passed over. A number that
cannot be held is wrong wherever reading comes to it, even if nothing uses it.
-/

namespace EmuHost

namespace Toml.Value

/-- A number between backquotes, with the width that it needs if that is more than eight bytes. -/
def describeInteger (n : Int) : String :=
  let wide :=
    if isSigned 64 n || isUnsigned 64 n then ""
    else if isSigned 128 n then " as i128" else " as u128"
  "integer `" ++ toString n ++ "`" ++ wide

/-- A value as it is named where another one was expected; a number that cannot be held has no name
but is wrong in itself. -/
def describe : Value → Except String String
  | .string s => .ok ("string " ++ Text.quoted s)
  | .integer n => .ok (describeInteger n)
  | .float x => .ok ("floating point `" ++ (if x.isFinite then floatText x else x.text) ++ "`")
  | .unusable true => .error "integer number overflowed"
  | .unusable false => .error "floating-point number overflowed"
  | .boolean b => .ok ("boolean `" ++ toString b ++ "`")
  | .dateTime _ => .ok "map"
  | .array .. => .ok "sequence"
  | .table .. => .ok "map"

/-- A value of the wrong kind. -/
def mismatch {α : Type} (span : Span) (v : Value) (expected : String) : Except Defect α :=
  match v.describe with
  | .ok name => .error ⟨span, "invalid type: " ++ name ++ ", expected " ++ expected⟩
  | .error message => .error ⟨span, message⟩

mutual

/-- The first number in a value that cannot be held. The entries of a table come in the order of
their names. -/
def unusable? (span : Span) : Value → Option Defect
  | .array _ items => firstUnusable? items
  -- the first in the order of the names, not in that of the text
  | .table _ entries => (((unusables entries).mergeSort fun a b => a.1 ≤ b.1).head?).map (·.2)
  | v =>
    match v.describe with
    | .ok _ => none
    | .error message => some ⟨span, message⟩

/-- The first number in the items of an array that cannot be held. -/
def firstUnusable? : List (Span × Value) → Option Defect
  | [] => none
  | (span, v) :: rest => (v.unusable? span).or (firstUnusable? rest)

/-- The first number under each key that cannot be held. -/
def unusables : List (String × Span × Value) → List (String × Defect)
  | [] => []
  | (key, span, v) :: rest =>
    match v.unusable? span with
    | some defect => (key, defect) :: unusables rest
    | none => unusables rest

end

/-- Passes over a value that is not used: the numbers in it are looked at all the same. -/
def ignore (span : Span) (v : Value) : Except Defect Unit :=
  match v.unusable? span with
  | some defect => .error defect
  | none => .ok ()

end Toml.Value

open Toml

/-- A type whose values are settings. -/
class Setting (α : Type) where
  /-- The value as it is written; `none` for a value that a file cannot hold. -/
  write? : α → Option (List Char)
  /-- The value that is written in a file. -/
  read : Span → Value → Except Defect α

namespace Setting

/-- Flags. -/
instance : Setting Bool where
  write? b := some (if b then "true".toList else "false".toList)
  read
    | _, .boolean b => .ok b
    | span, v => v.mismatch span "a boolean"

/-- Texts. -/
instance : Setting String where
  write? s := some (Toml.quoted s)
  read
    | _, .string s => .ok s
    | span, v => v.mismatch span "a string"

/-- Counts that have an unsigned word of 64 bits; a larger one has no text. -/
instance : Setting Nat where
  write? n := if isUnsigned 64 n then some (Nat.toDigits 10 n) else none
  read
    | span, .integer n =>
      -- what is too small is a wrong value, what has no word of 64 bits is of another type
      if isUnsigned 64 n then .ok n.toNat
      else if isSigned 64 n then
        .error ⟨span, "invalid value: " ++ Value.describeInteger n ++ ", expected usize"⟩
      else (Value.integer n).mismatch span "usize"
    | span, v => v.mismatch span "usize"

/-- Four-byte floats. They are written with the fewest digits that read back in their own format,
and are read in the wider format first. Whole numbers of up to eight bytes are accepted as well. -/
instance : Setting Binary32 where
  write? x := some (floatText x).toList
  read
    | _, .float x => .ok (x.convert .single)
    | span, .integer n =>
      if isSigned 64 n || isUnsigned 64 n then .ok (.ofInt n)
      else (Value.integer n).mismatch span "f32"
    | span, v => v.mismatch span "f32"

/-- The value with a given name. -/
def readName {α : Type} (values : List α) (name : α → String) (span : Span) (text : String) :
    Except Defect α :=
  match values.find? (name · == text) with
  | some v => .ok v
  | none =>
    let names := values.map fun v => "`" ++ name v ++ "`"
    .error ⟨span, "unknown variant `" ++ text ++ "`, expected one of " ++ ", ".intercalate names⟩

/-- Enumerated values, by name. A table with the name as its only key and nothing in it is accepted
as well. -/
@[reducible] def ofNames {α : Type} (values : List α) (name : α → String) : Setting α where
  write? v := some (Toml.quoted (name v))
  read
    | span, .string s => readName values name span s
    | span, .table _ [] => .error ⟨span, "wanted exactly 1 element, found 0 elements"⟩
    | span, .table _ [(key, content)] => do
      let v ← readName values name span key
      match content with
      | (_, .table _ []) | (_, .array _ []) => return v
      | (span, .table ..) => .error ⟨span, "expected empty table"⟩
      | (span, .array ..) => .error ⟨span, "expected empty array"⟩
      | (span, _) => .error ⟨span, "expected table"⟩
    | span, .table .. => .error ⟨span, "wanted exactly 1 element, more than 1 element"⟩
    | span, _ => .error ⟨span, "wanted string or table"⟩

instance : Setting SystemLanguage := ofNames SystemLanguage.all SystemLanguage.name

instance : Setting RegionCode := ofNames RegionCode.all RegionCode.name

instance : Setting BackendThreading := ofNames BackendThreading.all BackendThreading.name

instance : Setting AspectRatio := ofNames AspectRatio.all AspectRatio.name

end Setting

/-- A field of a record of settings. -/
structure Field (σ : Type) where
  key : String
  /-- The field's value as it is written. -/
  write? : σ → Option (List Char)
  /-- The record with the field set to what a file holds. -/
  assign : Span → Value → σ → Except Defect σ

namespace Field

variable {σ : Type}

/-- The field under a key that is read and changed by `get` and `set`. -/
def of {α : Type} [Setting α] (key : String) (get : σ → α) (set : α → σ → σ) : Field σ where
  key := key
  write? s := Setting.write? (get s)
  assign span v s := do return set (← Setting.read span v) s

/-- Sets the field that an entry names. The value under any other name is passed over. -/
def assignEntry (fields : List (Field σ)) (s : σ) (entry : String × Span × Value) :
    Except Defect σ :=
  match fields.find? (·.key == entry.1) with
  | some field => field.assign entry.2.1 entry.2.2 s
  | none => do
    -- a value that nobody asks for must still be one that can be held
    entry.2.2.ignore entry.2.1
    return s

/-- Sets the fields that a table names, in the order of their names. -/
def readTable (fields : List (Field σ)) (start : σ) (table : Table) : Except Defect σ :=
  -- the order of the names decides which error comes first
  (table.mergeSort fun a b => decide (a.1 ≤ b.1)).foldlM (assignEntry fields) start

/-- Sets fields in their own order, as many as there are values. Values beyond the last field are
not looked at. -/
def readItems (fields : List (Field σ)) (start : σ) (items : List (Span × Value)) :
    Except Defect σ :=
  (fields.zip items).foldlM (fun s (field, v) => field.assign v.1 v.2 s) start

/-- Reads a record from a table, or from an array of the values in the order of the fields. A date
counts as a table that names no field. -/
def readRecord (title : String) (fields : List (Field σ)) (start : σ) (span : Span) :
    Value → Except Defect σ
  | .table _ table => readTable fields start table
  | .array _ items => readItems fields start items
  | .dateTime _ => .ok start
  | v => v.mismatch span ("struct " ++ title)

/-- A line for each field. -/
def writeRecord? (fields : List (Field σ)) (s : σ) : Option (List Char) := do
  let lines ← fields.mapM fun field => do
    return field.key.toList ++ " = ".toList ++ (← field.write? s) ++ ['\n']
  return lines.flatten

/-- A field that is a record itself, read over a start value of its own. -/
def ofRecord {ρ : Type} (key title : String) (fields : List (Field ρ)) (start : ρ) (get : σ → ρ)
    (set : ρ → σ → σ) : Field σ where
  key := key
  write? s := writeRecord? fields (get s)
  assign span v s := do return set (← readRecord title fields start span v) s

end Field

end EmuHost
