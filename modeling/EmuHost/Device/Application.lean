import EmuHost.Error
import EmuHost.Files.Tree
import EmuHost.Text.Quoted

/-!
# Application images

What a path holds that the core could load. A directory is an extracted cart, whose image file is
picked from its entries, and one whose entries cannot be listed is an error; a file is told apart by
its extension, and one with no known extension is homebrew.
-/

namespace EmuHost

/-- An application image by kind. -/
inductive Application where
  /-- An extracted cart and the image of its read-only files, if there is one. -/
  | cart (path : Path) (romfs : Option Path)
  | xci (path : Path)
  | nca (path : Path)
  | nsp (path : Path)
  | homebrew (path : Path)
  deriving DecidableEq, Repr

namespace Application

/-- The image as it is shown in messages. -/
def summary : Application → String
  | .cart path romfs =>
    let image := match romfs with
      | none => "None"
      | some p => "Some(" ++ Text.quoted p ++ ")"
    "Cart \x7b path: " ++ Text.quoted path ++ ", romfs: " ++ image ++ " \x7d"
  | .xci path => "Xci(" ++ Text.quoted path ++ ")"
  | .nca path => "Nca(" ++ Text.quoted path ++ ")"
  | .nsp path => "Nsp(" ++ Text.quoted path ++ ")"
  | .homebrew path => "Homebrew(" ++ Text.quoted path ++ ")"

/-- The extensions of image files in a cart, the preferred one first. -/
def romfsExtensions : List String := ["istorage", "romfs"]

/-- Whether a file name has an extension, letters compared without case. -/
def hasExtension (wanted name : String) : Bool :=
  match Path.splitExtension? name with
  | some (_, extension) => asciiLower extension == wanted
  | none => false

/-- The image among the names of the files in a cart: the first in order with the preferred
extension, else with the next. -/
def pickRomfs (names : List String) : Option String :=
  let sorted := names.mergeSort fun a b => decide (a ≤ b)
  -- all files are asked for the preferred extension before any is for the next
  romfsExtensions.findSome? fun wanted => sorted.find? (hasExtension wanted)

/-- The image file of a cart directory. -/
def findRomfs (tree : FileTree) (dir : Path) : Except DeviceError (Option Path) :=
  match tree.list dir with
  | .error e => .error (.core [e.message])
  | .ok names =>
    let files := names.filter fun name => tree.isFile (dir.join name)
    .ok ((pickRomfs files).map dir.join)

/-- The kind of a file by its path. -/
def ofFile (path : Path) : Application :=
  match (Path.extension? path).map asciiLower with
  | some "xci" => .xci path
  | some "nca" => .nca path
  | some "nsp" | some "pfs0" => .nsp path
  | _ => .homebrew path

/-- What a path holds. -/
def detect (tree : FileTree) (path : Path) : Except DeviceError Application :=
  if tree.isDirectory path then (findRomfs tree path).map (.cart path)
  else if tree.isFile path then .ok (ofFile path)
  else .error (.unsupportedApplication path)

end Application

end EmuHost
