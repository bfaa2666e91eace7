import Gamebook.Files.Archive
import Gamebook.Files.Fault
import Gamebook.Text.Lines
import Std.Data.TreeMap

/-!
A tree of files.

Entries are kept under their locations, the names on the way from the root. A path is followed name
by name, and every name but the last has to lead to a directory; two dots lead to the directory
above. There are no links, so a location belongs to one entry only.
-/

namespace Gamebook.Files

open Gamebook.Text

abbrev Location := List Text

inductive Content where
  | bytes (data : ByteArray)
  | archive (packed : Archive)
deriving DecidableEq

namespace Content

def ofText (text : Text) : Content := .bytes (Utf8.encode text)

def toBytes : Content → ByteArray
  | .bytes data => data
  | .archive packed => packed.toBytes

end Content

inductive Entry where
  | directory
  | file (content : Content)
deriving DecidableEq

structure FileTree where
  entries : Std.TreeMap Location Entry := .empty
  workingDirectory : Location := []

/-- What a path leads to: an entry, or a free place in a directory. -/
inductive Spot where
  | taken (location : Location) (entry : Entry)
  | free (location : Location)
deriving DecidableEq

namespace FileTree

/-- The entry at a location; the root is always a directory. -/
def entry? (tree : FileTree) (location : Location) : Option Entry :=
  if location = [] then some .directory else tree.entries[location]?

def put (tree : FileTree) (location : Location) (entry : Entry) : FileTree :=
  { tree with entries := tree.entries.insert location entry }

def step (directory : Location) (name : Text) : Location :=
  if name = ['.', '.'] then directory.dropLast else directory ++ [name]

def maxNameBytes : Nat := 255

def maxPathBytes : Nat := 4095

def isLongerThan (limit : Nat) (text : Text) : Bool := limit < (Utf8.encode text).size

def followNames (tree : FileTree) (directory : Location) : List Text → Except Cause Spot
  | [] => .ok (.taken directory .directory)
  | name :: names =>
    if isLongerThan maxNameBytes name then .error .nameTooLong
    else
      match tree.entry? (step directory name), names with
      | some entry, [] => .ok (.taken (step directory name) entry)
      | none, [] => .ok (.free (step directory name))
      | some .directory, names => tree.followNames (step directory name) names
      | some (.file _), _ => .error .notDirectory
      | none, _ => .error .notFound

def startOf (tree : FileTree) : Anchor → Location
  | .workingDirectory => tree.workingDirectory
  | _ => []

def find (tree : FileTree) (path : Path) : Except Fault Spot :=
  if path.parts.any (·.contains '\x00') then .error .embeddedNull
  else if isLongerThan maxPathBytes path.print then .error (.refused .nameTooLong path)
  else (tree.followNames (tree.startOf path.anchor) path.parts).mapError (.refused · path)

/-- The entry that a path leads to, if there is one. -/
def lookup? (tree : FileTree) (path : Path) : Option Entry :=
  match tree.find path with
  | .ok (.taken _ entry) => some entry
  | _ => none

def isFile (tree : FileTree) (path : Path) : Bool :=
  match tree.lookup? path with
  | some (.file _) => true
  | _ => false

def isDirectory (tree : FileTree) (path : Path) : Bool := tree.lookup? path = some .directory

def hasEntry (tree : FileTree) (path : Path) : Bool := (tree.lookup? path).isSome

/-- Why it cannot be told what a path leads to: it is too long. A path that cannot be followed for
any other reason leads to nothing. -/
def testFault? (tree : FileTree) (path : Path) : Option Fault :=
  match tree.find path with
  | .error (.refused .nameTooLong path) => some (.refused .nameTooLong path)
  | _ => none

/-- The answer of a test, if it can be told what the path leads to. -/
def tested (tree : FileTree) (path : Path) (answer : Bool) : Except Fault Bool :=
  match tree.testFault? path with
  | some fault => .error fault
  | none => .ok answer

def testFile (tree : FileTree) (path : Path) : Except Fault Bool :=
  tree.tested path (tree.isFile path)

def testDirectory (tree : FileTree) (path : Path) : Except Fault Bool :=
  tree.tested path (tree.isDirectory path)

def read (tree : FileTree) (path : Path) : Except Fault Content :=
  match tree.find path with
  | .ok (.taken _ (.file content)) => .ok content
  | .ok (.taken _ .directory) => .error (.refused .isDirectory path)
  | .ok (.free _) => .error (.refused .notFound path)
  | .error fault => .error fault

/-- A file's text, each line ending in a line feed. -/
def readText (tree : FileTree) (path : Path) : Except Fault Text := do
  let content ← tree.read path
  return unifyBreaks (← (Utf8.decode content.toBytes).mapError .notText)

/-- A file's text without the byte order mark that may stand in front. -/
def readMarkedText (tree : FileTree) (path : Path) : Except Fault Text := do
  let content ← tree.read path
  return unifyBreaks (← (Utf8.decodeMarked content.toBytes).mapError .notText)

/-- Everything below a directory, by name, each with its names from there; nothing below anything
else. -/
def below (tree : FileTree) (path : Path) : List (List Text × Entry) :=
  match tree.find path with
  | .ok (.taken base .directory) =>
    tree.entries.toList.filterMap fun (location, entry) =>
      if base.isPrefixOf location && location.length > base.length then
        some (location.drop base.length, entry)
      else none
  | _ => []

/-- The directories to open to find everything below a path: the path and the directories below. -/
def openedFrom (tree : FileTree) (path : Path) : List Path :=
  path :: (tree.below path).filterMap fun (names, entry) =>
    match entry with
    | .directory => some (path.below names)
    | .file _ => none

/-- Everything below a directory, by name, if no directory on the way is too long to be opened. -/
def listBelow (tree : FileTree) (path : Path) : Except Fault (List (List Text × Entry)) :=
  match (tree.openedFrom path).findSome? tree.testFault? with
  | some fault => .error fault
  | none => .ok (tree.below path)

/-- The paths of everything below a directory, by name. -/
def pathsBelow (tree : FileTree) (path : Path) : Except Fault (List Path) := do
  let found ← tree.listBelow path
  return found.map fun (names, _) => path.below names

end FileTree

end Gamebook.Files
