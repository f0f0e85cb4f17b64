/-
Module: ReplicaBridge.Settings.Files
Purpose: A tree of files and directories, as far as settings are kept in it.
Main exports: FilePath, FilePath.ofText, FileTree, FileTree.read?, FileTree.makeDirectories,
  FileTree.write?, FileTree.delete
-/
import ReplicaBridge.Bytes

namespace ReplicaBridge

/-- A path from the root of the tree, step by step: a name leads to an entry of a directory,
two points lead up, and one point or nothing asks for a directory and stays there. -/
abbrev FilePath := List String

namespace FilePath

/-- The path of a text: steps between slashes. -/
def ofText (text : String) : FilePath :=
  if text.isEmpty then [] else text.splitOn "/"

/-- A step that leads nowhere else. -/
def stays (step : String) : Bool :=
  step = "" || step = "."

/-- The bytes that the name of an entry can have at most. -/
def maxName : Nat := 255

/-- A step that a directory can have an entry for. -/
def isName (step : String) : Bool :=
  step.utf8ByteSize ≤ maxName && !step.contains '\x00'

/-- The bytes of a path, a slash for each step. -/
def size (path : FilePath) : Nat :=
  path.foldl (fun size part => size + (part.utf8ByteSize + 1)) 0

/-- The bytes that a path can have at most. -/
def maxSize : Nat := 4050

/-- A path that can be asked for: it is not too long, and no step of it holds a null
character. -/
def isSpelled (path : FilePath) : Bool :=
  path.size ≤ maxSize && path.all (!·.contains '\x00')

/-- The path above the last name. -/
def parent (path : FilePath) : FilePath :=
  (((path.reverse.dropWhile stays).drop 1).dropWhile stays).reverse

/-- The path names no directory at its end but asks to stay in the one before. -/
def endsInPoint (path : FilePath) : Bool :=
  (path.reverse.dropWhile (· = "")).head? = some "."

end FilePath

/-- What is at a path: a directory, with its entries by their names, or a file. -/
inductive FileEntry where
  | directory (entries : List (String × FileEntry))
  | file (content : Bytes)
deriving Repr, Inhabited

namespace FileEntry

def isDirectory : FileEntry → Bool
  | directory _ => true
  | file _ => false

/-- The entry with a name, if this is a directory that has one. -/
def child? (entry : FileEntry) (name : String) : Option FileEntry :=
  match entry with
  | directory entries => entries.lookup name
  | file _ => none

/-- The directory with an entry of a name put in, put in place of the one there, or taken
out. -/
def withChild (entry : FileEntry) (name : String) (child : Option FileEntry) : FileEntry :=
  match entry with
  | directory entries =>
    directory (child.toList.map (name, ·) ++ entries.filter (·.1 != name))
  | file content => file content

/-- What is at a place below an entry, if anything. -/
def look (entry : FileEntry) : (place : FilePath) → Option FileEntry
  | [] => some entry
  | name :: rest => (entry.child? name).bind (look · rest)

/-- Put something at a place below an entry, or take out what is there.  Nothing is put where
no directory is. -/
def put (entry : FileEntry) (new : Option FileEntry) : (place : FilePath) → FileEntry
  | [] => new.getD entry
  | [name] => entry.withChild name new
  | name :: rest =>
    match entry.child? name with
    | some child => entry.withChild name (some (put child new rest))
    | none => entry

end FileEntry

/-- A tree of files and directories, by its root directory. -/
structure FileTree where
  root : FileEntry := .directory []
deriving Repr, Inhabited

namespace FileTree

/-- What is at a place without points, if anything. -/
def look (tree : FileTree) (place : FilePath) : Option FileEntry :=
  tree.root.look place

/-- A directory is at a place. -/
def isDirectory (tree : FileTree) (place : FilePath) : Bool :=
  (tree.look place).any (·.isDirectory)

/-- One step from a place, which must be a directory. -/
def walk? (tree : FileTree) (place : FilePath) (step : String) : Option FilePath :=
  if !tree.isDirectory place then none
  else if FilePath.stays step then some place
  else if step = ".." then some place.dropLast
  else if FilePath.isName step then some (place ++ [step])
  else none

/-- The place that a path leads to, whether or not something is there. -/
def place? (tree : FileTree) (path : FilePath) : Option FilePath :=
  if path.isSpelled then path.foldlM tree.walk? [] else none

/-- What is at a path, if anything. -/
def entry? (tree : FileTree) (path : FilePath) : Option FileEntry :=
  (tree.place? path).bind tree.look

/-- The content of the file at a path. -/
def read? (tree : FileTree) (path : FilePath) : Option Bytes :=
  match tree.entry? path with
  | some (.file content) => some content
  | _ => none

/-- Put an entry at a place, or take out what is there. -/
def put (tree : FileTree) (place : FilePath) (entry : Option FileEntry) : FileTree :=
  { root := tree.root.put entry place }

/-- Make the directory at a place, whose parent is there. -/
def makeDirectory? (tree : FileTree) (place : FilePath) : Option FileTree :=
  match tree.look place with
  | some (.directory _) => some tree
  | some (.file _) => none
  | none => some (tree.put place (some (.directory [])))

/-- Make the directories along the steps from a place on, as far as that is possible; says
whether it was. -/
def makeAlong (place : FilePath) : (steps : FilePath) → FileTree → FileTree × Bool
  | [], tree => (tree, true)
  | step :: rest, tree =>
    match tree.walk? place step with
    | none => (tree, false)
    | some next => match tree.makeDirectory? next with
      | none => (tree, false)
      | some tree => makeAlong next rest tree

/-- Make a directory and all above it; a file in the way prevents that, but not the
directories above the file.  Behind a point at the end there is nothing to make, so that the
directory before it has to be there.  Says whether the directory is there. -/
def makeDirectories (tree : FileTree) (path : FilePath) : FileTree × Bool :=
  if !path.isSpelled then (tree, false)
  else if path.endsInPoint then
    let (made, above) := makeAlong [] path.parent tree
    (made, above && (made.place? path).any made.isDirectory)
  else makeAlong [] path tree

/-- Write a file, in a directory that is there. -/
def write? (tree : FileTree) (path : FilePath) (content : Bytes) : Option FileTree :=
  match tree.place? path with
  | none => none
  | some place =>
    if tree.isDirectory place then none else some (tree.put place (some (.file content)))

/-- Put a file in place together with the directories above it; what cannot be made stays
out. -/
def install (tree : FileTree) (path : FilePath) (content : Bytes) : FileTree :=
  let made := (tree.makeDirectories path.parent).1
  (made.write? path content).getD made

/-- Delete the file at a path; says whether there was one. -/
def delete (tree : FileTree) (path : FilePath) : FileTree × Bool :=
  match tree.place? path with
  | none => (tree, false)
  | some place =>
    match tree.look place with
    | some (.file _) => (tree.put place none, true)
    | _ => (tree, false)

end FileTree

end ReplicaBridge
