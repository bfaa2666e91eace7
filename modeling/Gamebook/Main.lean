import Gamebook.Files.Changes
import Gamebook.Publish.Identifier
import Gamebook.Run.Build
import Std.Time

/-!
The command line. The files that a run may look at are read before it, and what it changed is
written behind it; everything in between is `Run.run`.
-/

namespace Gamebook.CommandLine

open Gamebook.Files Gamebook.Run

def place (location : Location) : String :=
  (Path.print ⟨.root, location⟩).str

def observe (files : FileTree) (location : Location) : IO FileTree := do
  let entry := (← IO.currentDir) / place location
  if ← entry.isDir then return files.put location .directory
  else if ← entry.pathExists then
    return files.put location (.file (.bytes (← IO.FS.readBinFile entry)))
  else return files

/-- Adds what is on the way to a path, and the path itself. -/
def observePath (files : FileTree) (path : Path) : IO FileTree := do
  let mut files := files
  let mut location := files.startOf path.anchor
  for part in path.parts do
    location := FileTree.step location part
    files ← observe files location
  return files

partial def observeBelow (files : FileTree) (location : Location) : IO FileTree := do
  let mut files ← observe files location
  let directory := (← IO.currentDir) / place location
  if ← directory.isDir then
    for entry in ← directory.readDir do
      files ← observeBelow files (location ++ [entry.fileName.toList])
  return files

def observeConfig (files : FileTree) (settings : Settings) (config : Config) : IO FileTree := do
  let templates := config.templateDirectory.toList.flatMap fun directory =>
    directory :: templateFiles.map directory.child
  let paths := config.inputPath.toList ++ config.output.toList ++ settings.logPath.toList
    ++ config.imageDirectory.toList ++ templates
  let mut files := files
  for path in paths do
    files ← observePath files path
  if let some directory := config.imageDirectory then
    if let .ok (.taken location _) := files.find directory then
      files ← observeBelow files location
  return files

def writeChange (location : Location) (entry : Entry) : IO Unit :=
  match entry with
  | .directory => IO.FS.createDirAll (place location)
  | .file content => IO.FS.writeBinFile (place location) content.toBytes

def variableNames : List String := ["FICDOWN_HOME", "FICDOWN_LOG_LEVEL", "FICDOWN_LOG_PATH",
  "FICDOWN_LOG_MAX_BYTES", "FICDOWN_LOG_BACKUP_COUNT", "FICDOWN_MAX_STATES"]

def environment : IO Variables := do
  let found ← variableNames.mapM fun name => do
    return (← IO.getEnv name).map fun value => (name, value.toList)
  return found.filterMap id

def now : IO Text := do
  let time := Std.Time.DateTime.ofTimestampWithZone (← Std.Time.Timestamp.now) .UTC
  return (time.format "uuuu-MM-dd'T'HH:mm:ss'Z'").toList

/-- The configuration that a command line asks for, if it asks for one. -/
def configOf? (settings : Settings) (words : List Text) : Option Config :=
  match Config.resolve settings words with
  | .ok (.run config) => some config
  | _ => none

partial def readAll (stream : IO.FS.Stream) (read : String) : IO String := do
  let line ← stream.getLine
  if line.isEmpty then return read else readAll stream (read ++ line)

/-- The standard input, where a story is checked that stands there. -/
def standardInput (config : Option Config) : IO Text := do
  if config.any Config.isLint then return (← readAll (← IO.getStdin) "").toList else return []

def run (words : List String) : IO UInt32 := do
  let words := words.map String.toList
  let workingDirectory := Path.ofText (← IO.currentDir).toString.toList
  let settings := Settings.load (← environment) workingDirectory (← IO.appPath).toString.toList
  let config := configOf? settings words
  let surroundings : Surroundings := {
    settings
    input := ← standardInput config
    now := ← now
    newIdentifier := Publish.Identifier.ofRandom (← IO.getRandomBytes 16).toList }
  let mut files : FileTree := { workingDirectory := workingDirectory.parts }
  files ← observePath files workingDirectory
  if let some config := config then files ← observeConfig files settings config
  let (result, world) := Run.run surroundings words { files }
  for (location, entry) in files.allChangesSince world.files do
    writeChange location entry
  for line in world.output do IO.println line
  for record in world.console do IO.eprintln record.line
  match result with
  | .ok outcome => return outcome.exitCode.toUInt32
  | .error escape =>
    IO.eprintln escape.message
    return 1

end Gamebook.CommandLine

def main (words : List String) : IO UInt32 := Gamebook.CommandLine.run words
