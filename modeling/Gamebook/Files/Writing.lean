import Gamebook.Files.Tree

/-!
Changes to a tree of files. An action that fails keeps the changes it made before.
-/

namespace Gamebook.Files

abbrev FileAction := ExceptT Fault (StateM FileTree)

def inspect (look : FileTree → Except Fault α) : FileAction α := fun tree => (look tree, tree)

namespace FileTree

def makeDirectory (tree : FileTree) (path : Path) : Except Fault FileTree :=
  match tree.find path with
  | .ok (.free location) => .ok (tree.put location .directory)
  | .ok (.taken _ _) => .error (.refused .alreadyExists path)
  | .error fault => .error fault

/-- Puts a file in place, or changes the file that is there. -/
def writeFile (tree : FileTree) (path : Path) (content : Content) : Except Fault FileTree :=
  match tree.find path with
  | .ok (.taken _ .directory) => .error (.refused .isDirectory path)
  | .ok (.taken location _) => .ok (tree.put location (.file content))
  | .ok (.free location) => .ok (tree.put location (.file content))
  | .error fault => .error fault

end FileTree

def change (attempt : FileTree → Except Fault FileTree) : FileAction Unit := fun tree =>
  match attempt tree with
  | .ok next => (.ok (), next)
  | .error fault => (.error fault, tree)

/-- A fault that does not matter where the directory may be there already. -/
def isHarmless (tree : FileTree) (path : Path) : Fault → Bool
  | .refused _ _ => tree.isDirectory path
  | _ => false

/-- Makes one directory; with `existing` it may be there already. -/
def makeDirectory (existing : Bool) (path : Path) : FileAction Unit := fun tree =>
  match tree.makeDirectory path with
  | .ok next => (.ok (), next)
  | .error fault =>
    (if existing && isHarmless tree path fault then .ok () else .error fault, tree)

def lacksParent : Fault → Bool
  | .refused .notFound _ => true
  | _ => false

/-- Makes a directory and those missing above it; with `existing` it may be there already. -/
def makeDirectories (existing : Bool) (path : Path) (tree : FileTree) :
    Except Fault Unit × FileTree :=
  match tree.makeDirectory path with
  | .ok next => (.ok (), next)
  | .error fault =>
    if lacksParent fault && path.parts ≠ [] then
      match makeDirectories true path.parent tree with
      | (.ok (), next) => makeDirectory existing path next
      | (.error fault, next) => (.error fault, next)
    else makeDirectory existing path tree
termination_by path.parts.length
decreasing_by
  rename_i missing
  simp only [Bool.and_eq_true, decide_eq_true_eq] at missing
  exact Path.length_parent missing.2

def makeAllDirectories (existing : Bool) (path : Path) : FileAction Unit :=
  makeDirectories existing path

def writeFile (path : Path) (content : Content) : FileAction Unit :=
  change fun tree => tree.writeFile path content

def writeText (path : Path) (text : Text) : FileAction Unit := writeFile path (.ofText text)

/-- Adds to the end of a file, which is made if it is missing. -/
def appendBytes (path : Path) (bytes : ByteArray) : FileAction Unit :=
  change fun tree =>
    let before := match tree.read path with
      | .ok content => content.toBytes
      | .error _ => .empty
    tree.writeFile path (.bytes (before ++ bytes))

/-- The location that both paths lead to, if it is one. -/
def FileTree.isSameEntry (tree : FileTree) (left right : Path) : Bool :=
  match tree.find left, tree.find right with
  | .ok (.taken leftLocation _), .ok (.taken rightLocation _) => leftLocation = rightLocation
  | _, _ => false

/-- Copies a file to a path, or into the directory that is there. -/
def copyFile (source target : Path) : FileAction Unit := do
  let tree ← get
  let inside := tree.isDirectory target
  let target := if inside then target.child source.name else target
  if tree.isSameEntry source target then throw (.sameFile source target !inside)
  let content ← inspect fun tree => tree.read source
  writeFile target content

/-- Copies the files below one directory to the same places below another, and gives the paths
written. What is copied is settled before the first copy. -/
def copyBelow (source destination : Path) : FileAction (List Path) := do
  let found ← inspect fun tree => tree.listBelow source
  found.foldlM (fun copied (names, _) => do
    if ← inspect fun tree => tree.testFile (source.below names) then
      let target := destination.below names
      makeAllDirectories true target.parent
      copyFile (source.below names) target
      return copied ++ [target]
    else return copied) []

end Gamebook.Files
