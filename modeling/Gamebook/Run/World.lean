import Gamebook.Files.Writing
import Gamebook.Log.Basic
import Gamebook.Run.Settings

/-!
What a run works on: the files, the handling of log records, and everything that it has told so far.
-/

namespace Gamebook.Run

open Gamebook.Text Gamebook.Files Gamebook.Log

/-- The ways in which a run tells something. Raw lines go to the output as they are, all others to
the log. -/
inductive Channel where
  | log
  | debug
  | error
  | exception
  | raw
deriving DecidableEq, Repr

namespace Channel

def name : Channel → String
  | .log => "log"
  | .debug => "debug"
  | .error => "error"
  | .exception => "exception"
  | .raw => "raw"

def severity? : Channel → Option Severity
  | .log => some .info
  | .debug => some .debug
  | .error => some .error
  | .exception => some .error
  | .raw => none

end Channel

structure Diagnostic where
  channel : Channel
  text : String
deriving DecidableEq, Repr

structure World where
  files : FileTree
  logging : Logging := {}
  diagnostics : List Diagnostic := []
  /-- The records printed so far, each with the handler that printed it. -/
  printed : List (Handler × Record) := []

/-- A step of a run that may fail; what it did before it failed stays. -/
abbrev Action (ε : Type) := ExceptT ε (StateM World)

/-- Works on the files, a fault becoming one of the run. -/
def onFiles (wrap : Fault → ε) (action : FileAction α) : Action ε α := fun world =>
  match action world.files with
  | (.ok result, files) => (.ok result, { world with files })
  | (.error fault, files) => (.error (wrap fault), { world with files })

namespace World

def deliver (record : Record) (world : World) (handler : Handler) : World :=
  let files := match handler with
    | .console => world.files
    | .file path =>
      (appendBytes path (Utf8.encode (record.line ++ "\n").toList) world.files).2
  { world with files, printed := world.printed ++ [(handler, record)] }

/-- Prints a record by all handlers if it is severe enough. -/
def emit (world : World) (record : Record) : World :=
  if record.severity.rank < world.logging.threshold.least then world
  else world.logging.handlers.foldl (deliver record) world

def loggerName : String := "ficdown"

def report (world : World) (channel : Channel) (text : String) : World :=
  let told := { world with diagnostics := world.diagnostics ++ [⟨channel, text⟩] }
  match channel.severity? with
  | none => told
  | some severity => told.emit ⟨severity, loggerName, text⟩

def output (world : World) : List String :=
  (world.diagnostics.filter fun diagnostic => diagnostic.channel = .raw).map Diagnostic.text

def recordsOf (world : World) (handler : Handler) : List Record :=
  (world.printed.filter fun entry => entry.1 = handler).map Prod.snd

def console (world : World) : List Record := world.recordsOf .console

end World

def report (channel : Channel) (text : String) : StateM World Unit :=
  modify fun world => world.report channel text

def emit (record : Record) : StateM World Unit := modify fun world => world.emit record

/-- Sets up the handling of log records, once. The level and the console come first, then the log
file, if one is named. -/
def configureLogging (level : Option Text) (logPath : Option Path) (debug : Bool) :
    Action Fault Unit := do
  if (← get).logging.configured then return
  modify fun world =>
    { world with logging := { world.logging with
        threshold := Level.ofName level debug, handlers := [.console] } }
  if let some path := logPath then
    onFiles id (makeAllDirectories true path.parent)
    let file := (⟨.root, (← get).files.workingDirectory⟩ : Path).absolute path
    onFiles id (appendBytes file .empty)
    modify fun world =>
      { world with logging := { world.logging with handlers := [.console, .file file] } }
  modify fun world => { world with logging := { world.logging with configured := true } }

end Gamebook.Run
