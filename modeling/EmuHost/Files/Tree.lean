import EmuHost.Files.Path

/-!
# File trees

A tree of directories, files and symbolic links with a working directory, and the operations on it
that a session needs: what a path leads to, the names in a directory, reading, writing and creating
directories. There may be directories whose names cannot be listed. A path is walked from the
working directory or, if absolute, from the root; links on the way are replaced by their targets, at
most `maxLinks` of them. A path of more than `maxPathSize` bytes leads nowhere, and no name has more
than `maxNameSize` bytes.
-/

namespace EmuHost

/-- What a name in a directory stands for. -/
inductive Node where
  | file (content : ByteArray)
  | link (target : Path)
  | directory (entries : List (String × Node))

namespace Node

/-- The entry of a directory. -/
def entry? (name : String) : Node → Option Node
  | .directory entries => entries.lookup name
  | _ => none

/-- The node under a list of names, following no links. -/
def find? : List String → Node → Option Node
  | [], node => some node
  | name :: names, node => do (← node.entry? name).find? names

/-- The entries with one of them set, in its old place or at the end. -/
def setEntry (name : String) (node : Node) : List (String × Node) → List (String × Node)
  | [] => [(name, node)]
  | (n, old) :: rest => if n = name then (n, node) :: rest else (n, old) :: setEntry name node rest

/-- The tree with a node set under a list of names whose directories exist. -/
def set (new : Node) : List String → Node → Node
  | [], _ => new
  | name :: names, .directory entries =>
    .directory (setEntry name (set new names ((entries.lookup name).getD (.directory []))) entries)
  | _, node => node

end Node

/-- Why a path leads nowhere, cannot be written or cannot be looked into. -/
inductive FileError where
  | notFound
  | notDirectory
  | tooManyLinks
  | nameTooLong
  | exists
  | isDirectory
  | accessDenied
  /-- The device that holds the files has failed. -/
  | inputOutput
  deriving DecidableEq, Repr

/-- What the system says of a failure on the file tree. -/
def FileError.message : FileError → String
  | .notFound => "No such file or directory (os error 2)"
  | .inputOutput => "Input/output error (os error 5)"
  | .accessDenied => "Permission denied (os error 13)"
  | .exists => "File exists (os error 17)"
  | .notDirectory => "Not a directory (os error 20)"
  | .isDirectory => "Is a directory (os error 21)"
  | .tooManyLinks => "Too many levels of symbolic links (os error 40)"
  | .nameTooLong => "File name too long (os error 36)"

/-- What a path is walked for. -/
inductive Purpose where
  /-- To look at what is there: a link at the end is followed. -/
  | look
  /-- To create a node: a link at the end is in the way. -/
  | create
  /-- To write a file: a link at the end is followed, but only a directory may have a slash behind
  its name. -/
  | write
  deriving DecidableEq, Repr

/-- Where a path leads: the names from the root to the place, no links among them. The place itself
need not exist, but the directory it is in does. -/
abbrev FileTree.Place := List String

/-- A file tree and the directory that relative paths start from. -/
structure FileTree where
  root : Node := .directory []
  workingDirectory : List String := []
  /-- The directories that can be walked through, but whose entries cannot be listed, and why. -/
  unlisted : List (FileTree.Place × FileError) := []

namespace FileTree

/-- How many links one path may lead through. -/
def maxLinks : Nat := 40

/-- How many bytes a path may have. -/
def maxPathSize : Nat := 4095

/-- How many bytes a name may have. -/
def maxNameSize : Nat := 255

/-- Walks the parts of a path from the directory `here`; `behind` walks on behind a link. -/
def walkParts (tree : FileTree) (purpose : Purpose)
    (behind : Place → List String → Except FileError Place) (here : Place) :
    List String → Except FileError Place
  | [] => .ok here
  | part :: rest =>
    -- slashes at the end leave empty parts
    let isLast := rest.all (·.isEmpty)
    if part = "" ∨ part = "." then tree.walkParts purpose behind here rest
    else if part = ".." then tree.walkParts purpose behind here.dropLast rest
    -- the length is looked at before anything that stands there
    else if maxNameSize < part.utf8ByteSize then .error .nameTooLong
    -- nothing is followed at the end of a path to a new node
    else if isLast && purpose = .create then .ok (here ++ [part])
    else if isLast && !rest.isEmpty && purpose = .write then .error .isDirectory
    -- from here on it matters what stands there
    else
      match tree.root.find? (here ++ [part]) with
      | none => if isLast then .ok (here ++ [part]) else .error .notFound
      | some (.directory _) => tree.walkParts purpose behind (here ++ [part]) rest
      | some (.file _) => if rest.isEmpty then .ok (here ++ [part]) else .error .notDirectory
      -- the target stands in for the part, seen from the directory of the link
      | some (.link target) =>
        behind (if target.isAbsolute then [] else here) (target.parts ++ rest)

/-- Walks the parts of a path through at most `links` links. -/
def walk (tree : FileTree) (purpose : Purpose) : (links : Nat) → Place → List String →
    Except FileError Place
  | 0 => tree.walkParts purpose fun _ _ => .error .tooManyLinks
  | links + 1 => tree.walkParts purpose (tree.walk purpose links)

/-- The place that a path leads to. The empty path, paths that hold a zero character and paths that
are too long lead nowhere. -/
def place (tree : FileTree) (purpose : Purpose) (p : Path) : Except FileError Place :=
  if p.isEmpty || p.toList.contains '\x00' then .error .notFound
  else if maxPathSize < p.utf8ByteSize then .error .nameTooLong
  -- a relative path starts in the working directory, which is a place without links
  else tree.walk purpose maxLinks (if p.isAbsolute then [] else tree.workingDirectory) p.parts

/-- The node that a path leads to, links followed. -/
def node? (tree : FileTree) (p : Path) : Option Node :=
  match tree.place .look p with
  | .ok place => tree.root.find? place
  | .error _ => none

/-- Whether a path leads to anything. -/
def contains (tree : FileTree) (p : Path) : Bool := (tree.node? p).isSome

def isDirectory (tree : FileTree) (p : Path) : Bool :=
  match tree.node? p with
  | some (.directory _) => true
  | _ => false

def isFile (tree : FileTree) (p : Path) : Bool :=
  match tree.node? p with
  | some (.file _) => true
  | _ => false

/-- The names in the directory that a path leads to. -/
def namesIn (tree : FileTree) (p : Path) : List String :=
  match tree.node? p with
  | some (.directory entries) => entries.map (·.1)
  | _ => []

/-- Why the entries of the directory that a path leads to cannot be listed, if they cannot. -/
def listingError? (tree : FileTree) (p : Path) : Option FileError :=
  match tree.place .look p with
  -- it is the place that cannot be listed, whatever path leads to it
  | .ok place => tree.unlisted.lookup place
  | .error _ => none

/-- Lists the names in the directory that a path leads to. -/
def list (tree : FileTree) (p : Path) : Except FileError (List String) :=
  match tree.listingError? p with
  | some e => .error e
  | none => .ok (tree.namesIn p)

/-- Creates a node where a path leads to a free place. -/
def create (tree : FileTree) (p : Path) (node : Node) : Except FileError FileTree := do
  let place ← tree.place .create p
  if (tree.root.find? place).isSome then throw .exists
  return { tree with root := Node.set node place tree.root }

/-- Creates an empty directory. -/
def createDirectory (tree : FileTree) (p : Path) : Except FileError FileTree :=
  tree.create p (.directory [])

/-- Creates a directory and what is missing of the directories above it, of which there are at most
`depth`. A directory that is there already is left as it is. -/
def createDirectoriesFrom (depth : Nat) (tree : FileTree) (p : Path) :
    Except FileError FileTree :=
  let orPresent (tree : FileTree) (e : FileError) : Except FileError FileTree :=
    -- what is there already need not be created
    if tree.isDirectory p then .ok tree else .error e
  if p.isEmpty then .ok tree
  else match tree.createDirectory p with
    | .ok tree => .ok tree
    -- only a missing directory above is a reason to try again
    | .error .notFound =>
      match depth, p.parent? with
      | depth + 1, some above =>
        match createDirectoriesFrom depth tree above with
        | .error e => .error e
        | .ok tree =>
          match tree.createDirectory p with
          | .ok tree => .ok tree
          | .error e => orPresent tree e
      | _, _ => .error .notFound
    | .error e => orPresent tree e

/-- Creates a directory and what is missing of the directories above it. -/
def createDirectories (tree : FileTree) (p : Path) : Except FileError FileTree :=
  tree.createDirectoriesFrom p.parts.length p

/-- Writes a file, in place of the old content or as a new file. -/
def write (tree : FileTree) (p : Path) (content : ByteArray) : Except FileError FileTree := do
  let place ← tree.place .write p
  match tree.root.find? place with
  -- a file is replaced as a whole
  | some (.directory _) => throw .isDirectory
  | _ => return { tree with root := Node.set (.file content) place tree.root }

/-- The content of the file that a path leads to. -/
def read (tree : FileTree) (p : Path) : Except FileError ByteArray :=
  match tree.place .look p with
  | .error e => .error e
  | .ok place =>
    match tree.root.find? place with
    | some (.file content) => .ok content
    | some (.directory _) => .error .isDirectory
    | _ => .error .notFound

end FileTree

end EmuHost
