import EmuHost.Text.Unprintable

/-!
# Quoted text

Text between double quotes, as values are shown in messages: the two special characters and the
common controls behind a backslash, every other unprintable character by its number.
-/

namespace EmuHost.Text

/-- The digits of a number in base sixteen, lower case. -/
def hexDigits (n : Nat) : List Char := Nat.toDigits 16 n

/-- One character inside double quotes. -/
def quotedChar (c : Char) : List Char :=
  match c.toNat with
  | 0x00 => ['\\', '0']
  | 0x09 => ['\\', 't']
  | 0x0a => ['\\', 'n']
  | 0x0d => ['\\', 'r']
  | 0x22 => ['\\', c]
  | 0x5c => ['\\', c]
  | n => if isUnprintable c then '\\' :: 'u' :: '\x7b' :: hexDigits n ++ ['\x7d'] else [c]

/-- Text between double quotes. -/
def quoted (s : String) : String :=
  String.ofList ('\x22' :: s.toList.flatMap quotedChar ++ ['\x22'])

/-- A list of texts between brackets. -/
def quotedList (items : List String) : String :=
  "[" ++ ", ".intercalate (items.map quoted) ++ "]"

end EmuHost.Text
