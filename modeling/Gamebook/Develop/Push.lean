import Gamebook.Develop.Tool

/-!
The checks that are run before changes leave the machine. They are run one after the other, and the
first that fails is the last.
-/

namespace Gamebook.Develop

open Gamebook.Text Gamebook.Files

/-- A command, with the file that it reads if there is one. -/
structure PushCheck where
  command : Command
  input : Option Path := none
deriving DecidableEq

/-- A command as it was run, with the text that it was given to read. -/
structure CommandRun where
  command : Command
  input : Option Text
deriving DecidableEq

namespace PushCheck

def tool (workshop : Workshop) (words : List Text) : PushCheck :=
  ⟨workshop.interpreter
    :: (workshop.repository.below ["tools", "run_dev_tool.py"]).print :: words, none⟩

def hooks (workshop : Workshop) : List PushCheck :=
  if workshop.files.hasEntry (workshop.repository.child ".pre-commit-config.yaml") then
    [tool workshop ["pre-commit", "run", "--all-files"]]
  else []

def lockFile (workshop : Workshop) : List PushCheck :=
  match workshop.installed "uv" with
  | some executable =>
    if workshop.files.hasEntry (workshop.repository.child "uv.lock") then
      [⟨[executable, "lock", "--check"], none⟩]
    else []
  | none => []

def imports (workshop : Workshop) : PushCheck :=
  ⟨[workshop.interpreter, (workshop.repository.below ["tools", "check_imports.py"]).print], none⟩

/-- The sample story is checked if it is there. -/
def sample (workshop : Workshop) : List PushCheck :=
  let story := workshop.repository.below ["content", "sample_story.md"]
  if workshop.files.hasEntry story then
    [⟨[workshop.interpreter, "-m", "ficdown", "--format", "lint"], some story⟩]
  else []

def all (workshop : Workshop) : List PushCheck :=
  hooks workshop ++ lockFile workshop ++ [
    imports workshop,
    tool workshop ["ruff", "check", "."],
    tool workshop ["ruff", "format", "--check", "."],
    tool workshop ["mypy"],
    tool workshop ["pytest"]] ++ sample workshop

def start (tree : FileTree) (check : PushCheck) : Except Fault CommandRun :=
  match check.input with
  | none => .ok ⟨check.command, none⟩
  | some path => do return ⟨check.command, some (← tree.readText path)⟩

/-- Runs checks while they succeed, given the exit codes in order, zero where none is left. Gives
what was run and the exit code of a failure. -/
def runAll (tree : FileTree) (codes : List Int) :
    List PushCheck → Except Fault (List CommandRun × Option Int)
  | [] => .ok ([], none)
  | check :: checks => do
    let started ← check.start tree
    if codes.headD 0 = 0 then
      let (runs, exit) ← runAll tree codes.tail checks
      return (started :: runs, exit)
    else return ([started], some (codes.headD 0))

end PushCheck

end Gamebook.Develop
