import Gamebook.Files.Tree
import Gamebook.Layers.Import

/-!
Checking the files below a source root for imports that their layer must not make.

A file lies in the layer of the directory right below the root. Each banned layer that a statement
of the file names is told once, in the order of the names.
-/

namespace Gamebook.Layers

open Gamebook.Text Gamebook.Files

structure Violation where
  file : Path
  layer : Layer
  imported : Layer
deriving DecidableEq

def Violation.print (violation : Violation) : Text :=
  violation.file.print ++ ": ".toList ++ violation.layer.name ++ " must not import ".toList
    ++ packageName ++ ['.'] ++ violation.imported.name

def stem (name : Text) : Text :=
  let behind := (name.reverse.takeWhile (· ≠ '.')).length
  let front := (name.reverse.dropWhile (· ≠ '.')).length
  if behind = 0 || front ≤ 1 then name else name.take (front - 1)

def initStem : Text := "__init__"

/-- The parts of the name of the module in a file, given by its names from the source root. -/
def moduleName (names : List Text) : ModuleName :=
  match names.getLast? with
  | none => [packageName]
  | some name =>
    let last := stem name
    ModuleName.ofText (join ['.']
      (packageName :: names.dropLast ++ if last = initStem then [] else [last]))

def packageOf (names : List Text) : ModuleName :=
  if names.getLast? = some "__init__.py".toList then moduleName names
  else (moduleName names).dropLast

def importedLayers (package : ModuleName) (imports : List Import) : List Layer :=
  (imports.flatMap fun statement => statement.named package).filterMap layerOf?

def violations (file : Path) (layer : Layer) (package : ModuleName) (imports : List Import) :
    List Violation :=
  let named := importedLayers package imports
  (Layer.byName.filter fun other => named.contains other && layer.banned.contains other).map
    fun imported => ⟨file, layer, imported⟩

/-- The layer of a file, given by its names from the source root. -/
def layerOfFile? : List Text → Option Layer
  | directory :: _ :: _ => Layer.ofName? directory
  | _ => none

/-- The violations of a file; none outside the root, and none in a layer without rules. -/
def checkFile (tree : FileTree) (root file : Path) : Except Fault (List Violation) :=
  match file.relativeTo? root with
  | none => .ok []
  | some names =>
    match layerOfFile? names with
    | none => .ok []
    | some layer =>
      if layer.banned = [] then .ok []
      else do
        let source ← tree.readText file
        return violations file layer (packageOf names) (Import.ofSource source)

def sourceEnding : Text := ".py"

def isSource (path : Path) : Bool := sourceEnding.isSuffixOf path.name

/-- The violations of all sources below a root, file by file. -/
def checkBelow (tree : FileTree) (root : Path) : Except Fault (List Violation) := do
  let paths ← tree.pathsBelow root
  let found ← (paths.filter isSource).mapM (checkFile tree root)
  return found.flatten

def passed : Text := "import boundary checks passed"

def report (violations : List Violation) : Text := join ['\n'] (violations.map Violation.print)

end Gamebook.Layers
