import Gamebook.Files.Path

/-!
Log records, and the handlers that print those severe enough.
-/

namespace Gamebook.Log

inductive Severity where
  | debug
  | info
  | error
deriving DecidableEq, Repr

namespace Severity

def rank : Severity → Nat
  | .debug => 10
  | .info => 20
  | .error => 40

def name : Severity → String
  | .debug => "DEBUG"
  | .info => "INFO"
  | .error => "ERROR"

end Severity

structure Record where
  severity : Severity
  logger : String
  message : String
deriving DecidableEq, Repr

/-- The logger of a name; without a name it is the one above all others. -/
def loggerName (name : String) : String := if name = "" then "root" else name

def Record.line (record : Record) : String :=
  record.severity.name ++ " [" ++ record.logger ++ "] " ++ record.message

/-- What a record's rank has to reach to be printed. A switch that is on counts as one. -/
inductive Level where
  | rank (rank : Nat)
  | switch
deriving DecidableEq, Repr

namespace Level

def least : Level → Nat
  | .rank least => least
  | .switch => 1

def named : List (String × Level) := [
  ("CRITICAL", .rank 50),
  ("FATAL", .rank 50),
  ("ERROR", .rank 40),
  ("WARNING", .rank 30),
  ("WARN", .rank 30),
  ("INFO", .rank 20),
  ("DEBUG", .rank 10),
  ("NOTSET", .rank 0),
  ("raiseExceptions", .switch),
  ("logThreads", .switch),
  ("logMultiprocessing", .switch),
  ("logProcesses", .switch)]

/-- The level of a name, or the usual one if the name is not known or missing. -/
def ofName (name : Option Text) (debug : Bool) : Level :=
  match name.bind fun name => named.lookup name.str with
  | some level => level
  | none => .rank (if debug then Severity.debug.rank else Severity.info.rank)

end Level

inductive Handler where
  | console
  | file (path : Files.Path)
deriving DecidableEq

structure Logging where
  threshold : Level := .rank 30
  handlers : List Handler := []
  configured : Bool := false
deriving DecidableEq

end Gamebook.Log
