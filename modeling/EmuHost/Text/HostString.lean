import EmuHost.Text.Utf8

/-!
# Strings from the host

The host passes strings as bytes that end before the first zero byte. They are meant to be UTF-8,
which is checked where they are read.
-/

namespace EmuHost

/-- A string as the host passed it: no zero byte among its bytes. -/
structure HostString where
  bytes : ByteArray

namespace HostString

/-- The string that starts a block of bytes. -/
def ofBytes (bytes : ByteArray) : HostString :=
  ⟨⟨(bytes.toList.takeWhile (· != 0)).toArray⟩⟩

/-- A text as the host passes it. -/
def ofText (s : String) : HostString := ofBytes s.toUTF8

/-- The text, or where it stops being one. -/
def decode (s : HostString) : Except Text.Utf8Defect String :=
  match String.fromUTF8? s.bytes with
  | some text => .ok text
  | none => .error ((Text.utf8Defect? s.bytes).getD ⟨0, none⟩)

/-- The text, if it is one. -/
def text? (s : HostString) : Option String := String.fromUTF8? s.bytes

end HostString

end EmuHost
