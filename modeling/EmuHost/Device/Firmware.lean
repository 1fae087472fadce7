import EmuHost.Files.Path
import EmuHost.Text.Quoted

/-!
# Firmware archives

Where a firmware archive comes from: a path, or a file that the host has opened.
-/

namespace EmuHost

/-- The source of a firmware archive. -/
inductive FirmwareSource where
  | path (p : Path)
  | descriptor (n : Int)
  deriving DecidableEq, Repr

/-- The source as it is shown in messages. -/
def FirmwareSource.summary : FirmwareSource → String
  | .path p => "Path(" ++ Text.quoted p ++ ")"
  | .descriptor n => s!"Descriptor({n})"

end EmuHost
