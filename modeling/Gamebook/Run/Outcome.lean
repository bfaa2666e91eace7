/-!
How a run ends, and the exit code of each ending.
-/

namespace Gamebook.Run

inductive Ending where
  | help
  | usageError
  | preconditionFailed
  | linted
  | blocked
  | rendered
  | fatal
deriving DecidableEq, Repr

namespace Ending

def name : Ending → String
  | .help => "help"
  | .usageError => "usage_error"
  | .preconditionFailed => "precondition_failed"
  | .linted => "linted"
  | .blocked => "blocked"
  | .rendered => "rendered"
  | .fatal => "fatal"

def exitCode : Ending → Nat
  | .usageError => 1
  | .preconditionFailed => 2
  | .fatal => 3
  | _ => 0

end Ending

structure Outcome where
  ending : Ending
  message : String := ""
  showsHelp : Bool := false
deriving DecidableEq, Repr

def Outcome.exitCode (outcome : Outcome) : Nat := outcome.ending.exitCode

end Gamebook.Run
