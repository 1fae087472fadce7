import EmuHost.Error
import EmuHost.Log
import EmuHost.Text.HostString
import EmuHost.Text.Quoted

/-!
# Host procedures

A host hands over a table of its native procedures when it asks for a renderer. Each backend
requires some of its entries (`Capabilities.ofInterop`): Vulkan the context loader, the surface
creator and a non-empty list of extension names, OpenGL the procedure resolver only. What the core
gets to see are the `Capabilities` of one backend, with the names copied.
-/

namespace EmuHost

/-- A host's table of native procedures. Of a procedure it matters here whether it is there. -/
structure InteropTable where
  glGetProcAddress : Bool := false
  vkContextLoader : Bool := false
  vkCreateSurface : Bool := false
  /-- The array of extension names, if there is one; an entry may be missing. -/
  vkExtensions : Option (List (Option HostString)) := none
  /-- How many entries of the array count. -/
  vkExtensionCount : Int := 0

/-- The validated procedures of one backend. -/
inductive Capabilities where
  | vulkan (extensions : List String)
  | openGl
  deriving DecidableEq, Repr

namespace Capabilities

def backend : Capabilities → Backend
  | .vulkan _ => .vulkan
  | .openGl => .openGl

/-- The capabilities as they are shown in messages; the procedures are left out. -/
def summary : Capabilities → String
  | .vulkan extensions =>
    "Vulkan(VulkanCapabilities \x7b required_extensions: " ++ Text.quotedList extensions
      ++ ", .. \x7d)"
  | .openGl => "OpenGl(GlCapabilities \x7b .. \x7d)"

/-- Reads extension names from entry `index` on. The first entry that is missing or no text is the
defect, and is logged. -/
def readExtensions (index : Nat) : List (Option HostString) → Except LogLine (List String)
  | [] => .ok []
  | none :: _ => .error (.warn s!"Vulkan extension entry {index} is null")
  | some name :: rest =>
    match name.decode with
    | .error defect =>
      .error (.warn (s!"Vulkan extension entry {index} is not UTF-8: " ++ defect.message))
    | .ok text => (readExtensions (index + 1) rest).map (text :: ·)

/-- Checks a table against the requirements of a backend. The first requirement that fails, in the
order of the table's description, is the error. -/
def ofInterop (backend : Backend) (table : InteropTable) :
    List LogLine × Except SessionError Capabilities :=
  let missing (field : InteropField) := Except.error (.interopMissing backend field)
  match backend with
  | .openGl => if table.glGetProcAddress then ([], .ok .openGl) else ([], missing .glGetProcAddress)
  | .vulkan =>
    if !table.vkContextLoader then ([], missing .vkContextLoader)
    else if !table.vkCreateSurface then ([], missing .vkCreateSurface)
    -- the count is asked for before the array that it counts
    else if table.vkExtensionCount ≤ 0 then ([], missing .vkExtensionCount)
    else match table.vkExtensions with
      | none => ([], missing .vkExtensions)
      | some entries =>
        -- entries past the count are not looked at
        match readExtensions 0 (entries.take table.vkExtensionCount.toNat) with
        | .ok names => ([], .ok (.vulkan names))
        | .error line => ([line], missing .vkExtensions)

end Capabilities

/-- A question that a core asks through the host's procedures. -/
inductive Probe where
  | procedure (name : String)
  | surface (instanceAddress : Nat)
  deriving DecidableEq, Repr

/-- What the host's procedures answer: whether a name is known, or the handle of a surface. -/
inductive ProbeAnswer where
  | found (known : Bool)
  | surface (handle : Option Nat)
  deriving DecidableEq, Repr

namespace Probe

/-- Whether one text occurs in another. -/
def occursIn (part : List Char) : List Char → Bool
  | [] => part.isEmpty
  | c :: rest => part.isPrefixOf (c :: rest) || occursIn part rest

/-- The procedures that the host knows: all that have a name, save those with `Missing` in it. -/
def isKnown (name : String) : Bool :=
  -- a name ends at its first zero
  let name := name.toList.takeWhile (· != '\x00')
  !name.isEmpty && !occursIn "Missing".toList name

/-- The answer through the procedures of a backend. A surface has the address of its instance as
handle, and 0 is no handle. OpenGL makes no surfaces. -/
def answer? (backend : Backend) : Probe → Option ProbeAnswer
  | .procedure name => some (.found (isKnown name))
  | .surface address =>
    match backend with
    | .vulkan => some (.surface (if address = 0 then none else some address))
    | .openGl => none

end Probe

end EmuHost
