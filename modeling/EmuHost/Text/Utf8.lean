/-!
# Malformed UTF-8

Where and why a byte string stops being UTF-8: the number of bytes of the longest well-formed
beginning, and the number of bytes that the first malformed sequence takes, unknown if the string
ends in the middle of a sequence that could still be completed.
-/

namespace EmuHost.Text

/-- The first defect of a byte string. -/
structure Utf8Defect where
  validUpTo : Nat
  length : Option Nat
  deriving DecidableEq

/-- How the defect is described in messages. -/
def Utf8Defect.message (d : Utf8Defect) : String :=
  match d.length with
  | some n => s!"invalid utf-8 sequence of {n} bytes from index {d.validUpTo}"
  | none => s!"incomplete utf-8 byte sequence from index {d.validUpTo}"

/-- A byte that continues a sequence. -/
def isContinuation (b : UInt8) : Bool := 0x80 ≤ b && b ≤ 0xbf

/-- The values that the second byte may take after a given first byte; none after a byte that
begins no sequence of several bytes. -/
def secondByteRange (first : UInt8) : Option (UInt8 × UInt8) :=
  if first < 0xc2 then none
  else if first = 0xe0 then some (0xa0, 0xbf)
  else if first = 0xed then some (0x80, 0x9f)
  else if first = 0xf0 then some (0x90, 0xbf)
  else if first = 0xf4 then some (0x80, 0x8f)
  else if first < 0xf4 then some (0x80, 0xbf)
  else none

/-- How many continuation bytes follow the second byte. -/
def furtherBytes (first : UInt8) : Nat :=
  if first < 0xe0 then 0 else if first < 0xf0 then 1 else 2

/-- Reads the last bytes of a sequence of which `taken` bytes are read; answers the rest of the
string or the length of the defect. -/
def takeContinuations : (count taken : Nat) → List UInt8 → Except (Option Nat) (List UInt8)
  | 0, _, rest => .ok rest
  | _ + 1, _, [] => .error none
  | count + 1, taken, b :: rest =>
    if isContinuation b then takeContinuations count (taken + 1) rest else .error (some taken)

/-- Reads one well-formed sequence. -/
def takeSequence : List UInt8 → Except (Option Nat) (List UInt8)
  | [] => .ok []
  | first :: rest =>
    if first < 0x80 then .ok rest
    else match secondByteRange first, rest with
      | none, _ => .error (some 1)
      | some _, [] => .error none
      | some (low, high), second :: rest =>
        if low ≤ second && second ≤ high then takeContinuations (furtherBytes first) 2 rest
        else .error (some 1)

/-- The first defect of the bytes, given that `seen` well-formed bytes precede them. The fuel is at
least the number of bytes. -/
def findDefect : (fuel seen : Nat) → List UInt8 → Option Utf8Defect
  | 0, _, _ => none
  | _ + 1, _, [] => none
  | fuel + 1, seen, bytes@(_ :: _) =>
    match takeSequence bytes with
    | .ok rest => findDefect fuel (seen + (bytes.length - rest.length)) rest
    | .error length => some ⟨seen, length⟩

/-- The first defect of a byte string, `none` if it is UTF-8. -/
def utf8Defect? (bytes : ByteArray) : Option Utf8Defect :=
  findDefect bytes.size 0 bytes.toList

end EmuHost.Text
