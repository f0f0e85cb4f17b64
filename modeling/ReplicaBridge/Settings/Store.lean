/-
Module: ReplicaBridge.Settings.Store
Purpose: Where settings are kept, and loading and saving them there.  A missing file is
  written with the usual settings when it is first loaded.
Main exports: HomeDirectory, Place, Place.coreConfig, Settings.read, Settings.write,
  Settings.saveTo, Settings.loadFrom
-/
import ReplicaBridge.Error
import ReplicaBridge.Settings.Codec
import ReplicaBridge.Settings.Files
import ReplicaBridge.Text.Utf8

namespace ReplicaBridge

/-! ### Places -/

/-- The directory from which the bridge's own files are found. -/
inductive HomeDirectory where
  /-- The one that the user chose. -/
  | chosen (path : String)
  /-- The one beside the game's program. -/
  | besideProgram
deriving Repr, Inhabited, DecidableEq

/-- A path below a home directory. -/
structure Place where
  home : HomeDirectory
  steps : List String
deriving Repr, Inhabited, DecidableEq

namespace Place

/-- The bridge's own directory.  An empty choice is none. -/
def base (choice : Option String) : Place :=
  match choice.filter (!·.isEmpty) with
  | some path => { home := .chosen path, steps := [] }
  | none => { home := .besideProgram, steps := ["coopbridge"] }

/-- The place of a name in a directory. -/
def step (place : Place) (name : String) : Place :=
  { place with steps := place.steps ++ [name] }

/-- The directory of the settings files. -/
def configs (choice : Option String) : Place :=
  (base choice).step "configs"

/-- The file of the settings. -/
def coreConfig (choice : Option String) : Place :=
  (configs choice).step "core.toml"

/-- A path with a further name behind it. -/
def joined (path name : String) : String :=
  if path.isEmpty || path.endsWith "/" then path ++ name else path ++ "/" ++ name

/-- The path as text, below the given text for its home. -/
def textBelow (place : Place) (home : String) : String :=
  place.steps.foldl joined home

end Place

/-! ### Loading and saving -/

/-- The outcome of an operation on files: the tree afterwards and an answer. -/
abbrev FileAnswer (α : Type) := FileTree × Except SettingsError α

namespace Settings

/-- Read the settings in a file. -/
def read (tree : FileTree) (path : FilePath) : Except SettingsError Settings :=
  match (tree.read? path).bind Text.ofUtf8? with
  | none => .error .io
  | some text =>
    match parse? text with
    | none => .error .parse
    | some settings => .ok settings

/-- Write the text of settings that can be written. -/
def write (settings : Settings) (tree : FileTree) (path : FilePath) : FileAnswer Unit :=
  match settings.render? with
  | none => (tree, .error .serialize)
  | some text =>
    match tree.write? path (Text.utf8 text) with
    | none => (tree, .error .io)
    | some tree => (tree, .ok ())

/-- Save settings to a file, making the directories above it. -/
def saveTo (settings : Settings) (tree : FileTree) (path : FilePath) : FileAnswer Unit :=
  match tree.makeDirectories path.parent with
  | (tree, false) => (tree, .error .io)
  | (tree, true) => settings.write tree path

/-- Load settings from a file.  When there is nothing at the path the usual settings are
saved there. -/
def loadFrom (tree : FileTree) (path : FilePath) : FileAnswer Settings :=
  match tree.entry? path with
  | some _ => (tree, read tree path)
  | none =>
    let usual : Settings := {}
    match usual.saveTo tree path with
    | (tree, .error error) => (tree, .error error)
    | (tree, .ok ()) => (tree, .ok usual)

end Settings

end ReplicaBridge
