import Gamebook.Files.Tree

/-!
Running development tools: those that are modules by the interpreter of the repository's own
environment if there is one, all others by the place where they are installed.
-/

namespace Gamebook.Develop

open Gamebook.Text Gamebook.Files

structure Workshop where
  files : FileTree
  repository : Path
  /-- The interpreter that is running. -/
  interpreter : Text
  /-- Where an executable is installed. -/
  installed : Text → Option Text

inductive Refusal where
  | noTool
  | notFound (tool : Text)
deriving DecidableEq

def Refusal.message : Refusal → Text
  | .noTool => "Usage: python tools/run_dev_tool.py <tool> [args...]"
  | .notFound tool => "Executable `".toList ++ tool ++ "` not found".toList

abbrev Command := List Text

namespace Workshop

/-- The tools that are modules, with the names of the modules. -/
def moduleTools : List (Text × Text) := [
  ("ruff", "ruff"),
  ("mypy", "mypy"),
  ("pytest", "pytest"),
  ("pre-commit", "pre_commit")]

def interpreterPaths (workshop : Workshop) : List Path := [
  workshop.repository.below [".venv", "Scripts", "python.exe"],
  workshop.repository.below [".venv", "bin", "python"]]

def moduleInterpreter (workshop : Workshop) : Text :=
  match workshop.interpreterPaths.find? workshop.files.hasEntry with
  | some path => path.print
  | none => workshop.interpreter

/-- The command that runs a tool, given by its name and arguments. -/
def command (workshop : Workshop) : List Text → Except Refusal Command
  | [] => .error .noTool
  | tool :: arguments =>
    match moduleTools.lookup tool with
    | some name => .ok (workshop.moduleInterpreter :: "-m" :: name :: arguments)
    | none =>
      match workshop.installed tool with
      | some executable => .ok (executable :: arguments)
      | none => .error (.notFound tool)

end Workshop

end Gamebook.Develop
