import Gamebook.Files.Tree
import Gamebook.Run.Config

/-!
What has to hold of the files before a story is rendered.
-/

namespace Gamebook.Run

open Gamebook.Text Gamebook.Files

inductive Precondition where
  | noSource (path : Option Path)
  | outputExists (path : Path)
  | noTemplates (path : Path)
  | noImages (path : Path)
deriving DecidableEq

def Precondition.message : Precondition → String
  | .noSource path => "Source file " ++ Config.printOr Path.print path ++ " not found."
  | .outputExists path => "Specified output " ++ path.print.str ++ " already exists."
  | .noTemplates path => "Template directory " ++ path.print.str ++ " does not exist."
  | .noImages path => "Images directory " ++ path.print.str ++ " does not exist."

def templateFiles : List Text := ["index.html", "scene.html", "styles.css"]

namespace Preflight

def missingTemplates (tree : FileTree) (directory : Path) : Except Fault (List Text) :=
  templateFiles.filterM fun name => do return !(← tree.testFile (directory.child name))

def templateRemark (missing : List Text) : String :=
  "Template directory must contain \"index.html\", \"scene.html\", and \"styles.css\" files "
    ++ "(missing: " ++ (join ", " missing).str ++ ")."

/-- What is remarked on a template directory, without standing in the way. -/
def remarks (tree : FileTree) (directory : Path) : Except Fault (List String) := do
  match ← missingTemplates tree directory with
  | [] => return []
  | missing => return [templateRemark missing]

def sourceFault (tree : FileTree) (config : Config) : Except Fault (Option Precondition) := do
  match config.inputPath with
  | none => return some (.noSource none)
  | some path => return if ← tree.testFile path then none else some (.noSource (some path))

def outputFault (tree : FileTree) (config : Config) : Except Fault (Option Precondition) := do
  match config.output with
  | none => return none
  | some path =>
    let isTaken := (← tree.testDirectory path) || tree.isFile path
    return if isTaken then some (.outputExists path) else none

def templateFault (tree : FileTree) (config : Config) : Except Fault (Option Precondition) := do
  match config.templateDirectory with
  | none => return none
  | some path => return if ← tree.testDirectory path then none else some (.noTemplates path)

def imageFault (tree : FileTree) (config : Config) : Except Fault (Option Precondition) := do
  match config.imageDirectory with
  | none => return none
  | some path => return if ← tree.testDirectory path then none else some (.noImages path)

/-- The first thing that does not hold of the source, the output and the templates. -/
def firstFault (tree : FileTree) (config : Config) : Except Fault (Option Precondition) := do
  if let some fault ← sourceFault tree config then return some fault
  if let some fault ← outputFault tree config then return some fault
  templateFault tree config

/-- The remarks on the way, and the first precondition that does not hold. -/
def check (tree : FileTree) (config : Config) :
    List String × Except Fault (Option Precondition) :=
  match firstFault tree config with
  | .error fault => ([], .error fault)
  | .ok (some fault) => ([], .ok (some fault))
  | .ok none =>
    match config.templateDirectory.mapM (remarks tree) with
    | .error fault => ([], .error fault)
    | .ok remarks => (remarks.getD [], imageFault tree config)

end Preflight

end Gamebook.Run
