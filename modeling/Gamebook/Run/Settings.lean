import Gamebook.Files.Path
import Gamebook.Text.Blank
import Gamebook.Text.Case
import Gamebook.Text.Numeral

/-!
Settings that come from the environment and not from the command line.

White space around a value does not count, and an empty value counts as not set. A number that
cannot be read counts as not set too; one out of range is taken to the nearest bound.
-/

namespace Gamebook.Run

open Gamebook.Text Gamebook.Files

abbrev Variables := List (String × Text)

structure Settings where
  home : Path
  logLevel : Option Text := none
  logPath : Option Path := none
  logMaxBytes : Int
  logBackupCount : Int
  maxStates : Int
deriving DecidableEq

structure Bounded where
  usual : Int
  least : Int
  most : Int

namespace Bounded

def logMaxBytes : Bounded := ⟨5 * 1024 * 1024, 64 * 1024, 100 * 1024 * 1024⟩

def logBackupCount : Bounded := ⟨5, 1, 120⟩

def maxStates : Bounded := ⟨10000, 1, 1000000⟩

def read (bounds : Bounded) (text : Text) : Int :=
  match readInt? text with
  | none => bounds.usual
  | some n => max bounds.least (min bounds.most n)

end Bounded

namespace Settings

/-- A variable without the white space around it; nothing if it is not set. -/
def setting (environment : Variables) (name : String) : Text :=
  strip ((environment.lookup name).getD [])

def nonempty (text : Text) : Option Text := if text = [] then none else some text

/-- The directory of the program that was called, seen from the working directory. -/
def programDirectory (workingDirectory : Path) (program : Text) : Path :=
  if program = [] then workingDirectory
  else (workingDirectory.absolute (Path.ofText program)).parent

/-- Reads the settings; `program` is how the program was called. -/
def load (environment : Variables) (workingDirectory : Path) (program : Text) : Settings where
  home := match nonempty (setting environment "FICDOWN_HOME") with
    | some home => Path.ofText home
    | none => programDirectory workingDirectory program
  logLevel := nonempty (upper (setting environment "FICDOWN_LOG_LEVEL"))
  logPath := (nonempty (setting environment "FICDOWN_LOG_PATH")).map Path.ofText
  logMaxBytes := Bounded.logMaxBytes.read (setting environment "FICDOWN_LOG_MAX_BYTES")
  logBackupCount := Bounded.logBackupCount.read (setting environment "FICDOWN_LOG_BACKUP_COUNT")
  maxStates := Bounded.maxStates.read (setting environment "FICDOWN_MAX_STATES")

/-- Where a site is written if no place is named. -/
def htmlOutput (settings : Settings) : Path := settings.home.child "html"

end Settings

end Gamebook.Run
