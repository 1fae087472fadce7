import EmuHost.Error
import EmuHost.Files.Tree
import EmuHost.Settings.Document

/-!
# Configuration files

The configuration file of a directory. A file that is not there stands for the defaults; a file that
cannot be read or understood is an error.
-/

namespace EmuHost

/-- Why a configuration file could not be loaded or saved. -/
inductive ConfigFileError where
  | unreadable (path : Path) (cause : FileError)
  | notText (path : Path)
  /-- The content is no configuration, with the description of the defect. -/
  | malformed (path : Path) (description : String)
  | directoryNotCreated (dir : Path) (cause : FileError)
  /-- The configuration has no text. -/
  | notWritable
  | unwritable (path : Path) (cause : FileError)
  deriving DecidableEq, Repr

namespace ConfigFileError

/-- What was being done. -/
def message : ConfigFileError → String
  | .unreadable path _ | .notText path => "reading " ++ path
  | .malformed path _ => "parsing " ++ path
  | .directoryNotCreated dir _ => "creating " ++ dir
  | .notWritable => "serializing config"
  | .unwritable path _ => "writing " ++ path

/-- What was wrong. -/
def cause : ConfigFileError → String
  | .unreadable _ e | .directoryNotCreated _ e | .unwritable _ e => e.message
  | .notText _ => "stream did not contain valid UTF-8"
  | .malformed _ description => description
  | .notWritable => "out-of-range value for u64 type"

/-- What was being done and what was wrong. -/
def chain (e : ConfigFileError) : CauseChain := [e.message, e.cause]

end ConfigFileError

namespace HostConfig

/-- The configuration file of a directory. -/
def path (dir : Path) : Path := dir.join configFileName

/-- Reads the configuration of a directory. -/
def load (tree : FileTree) (dir : Path) : Except ConfigFileError HostConfig :=
  -- nothing to read is no failure
  if !tree.contains (path dir) then .ok {}
  else match tree.read (path dir) with
    | .error e => .error (.unreadable (path dir) e)
    | .ok content =>
      match String.fromUTF8? content with
      | none => .error (.notText (path dir))
      | some text =>
        match ofText text.toList with
        | .ok config => .ok config
        | .error defect => .error (.malformed (path dir) (defect.render text.toList))

/-- Writes the configuration of a directory, creating the directory if need be. -/
def save (tree : FileTree) (dir : Path) (config : HostConfig) :
    Except ConfigFileError FileTree := do
  -- the text is made once there is a place for it
  let tree ← (tree.createDirectories dir).mapError (.directoryNotCreated dir)
  match config.text? with
  | none => throw .notWritable
  | some text =>
    (tree.write (path dir) (String.ofList text).toUTF8).mapError (.unwritable (path dir))

end HostConfig

end EmuHost
