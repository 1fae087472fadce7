/-!
# Path text

Paths are texts whose parts are separated by slashes. These functions read the text only; what a
path leads to is a matter of the file tree.
-/

namespace EmuHost

/-- A path as it was given, not normalized. -/
abbrev Path := String

namespace Path

/-- The parts between slashes. Repeated and final slashes give empty parts. -/
def parts (p : Path) : List String := (p.toList.splitOn '/').map String.ofList

def isAbsolute (p : Path) : Bool := p.toList.head? == some '/'

/-- An entry of the directory `dir`: a slash is put between unless the text ends in one already or
is empty. -/
def join (dir : Path) (name : String) : Path :=
  if dir.isEmpty || dir.toList.getLast? == some '/' then dir ++ name else dir ++ "/" ++ name

/-- The parts that name something: the slashes and the dots for the same directory are passed over,
save a dot at the start of a relative path. -/
def steps (p : Path) : List String :=
  let named (part : String) : Bool := part != "" && part != "."
  match p.parts with
  | "." :: rest => "." :: rest.filter named
  | parts => parts.filter named

/-- The last step, if it is a name. -/
def fileName? (p : Path) : Option String :=
  match p.steps.getLast? with
  | some "." | some ".." => none
  | last => last

/-- A name cut at its last dot: before it and after it. The dot at the start of a name does not
count, and neither does a name of two dots. -/
def splitExtension? (name : String) : Option (String × String) :=
  let reversed := name.toList.reverse
  let extension := reversed.takeWhile (· != '.')
  match reversed.dropWhile (· != '.') with
  | _ :: stem@(_ :: _) =>
    if name = ".." then none
    else some (String.ofList stem.reverse, String.ofList extension.reverse)
  | _ => none

/-- The text after the last dot of the file name. -/
def extension? (p : Path) : Option String := do
  let name ← p.fileName?
  let (_, extension) ← splitExtension? name
  return extension

/-- The path without its last step, `none` for the root and the empty path. -/
def parent? (p : Path) : Option Path :=
  match p.steps.reverse with
  | [] => none
  | _ :: before =>
    some ((if p.isAbsolute then "/" else "") ++ "/".intercalate before.reverse)

end Path

/-- A letter from A to Z in lower case, any other character as it is. -/
def asciiLower (s : String) : String := String.ofList (s.toList.map Char.toLower)

end EmuHost
