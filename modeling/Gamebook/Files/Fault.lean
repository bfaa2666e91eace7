import Gamebook.Files.Path
import Gamebook.Text.Utf8

/-!
Why work on files fails, and how it is told.
-/

namespace Gamebook.Files

open Gamebook.Text

inductive Cause where
  | notFound
  | alreadyExists
  | notDirectory
  | isDirectory
  | nameTooLong
deriving DecidableEq, Repr

namespace Cause

def number : Cause → Nat
  | .notFound => 2
  | .alreadyExists => 17
  | .notDirectory => 20
  | .isDirectory => 21
  | .nameTooLong => 36

def reason : Cause → String
  | .notFound => "No such file or directory"
  | .alreadyExists => "File exists"
  | .notDirectory => "Not a directory"
  | .isDirectory => "Is a directory"
  | .nameTooLong => "File name too long"

end Cause

inductive Fault where
  /-- The files do not allow it. -/
  | refused (cause : Cause) (path : Path)
  /-- A path holds the character that ends file names. -/
  | embeddedNull
  | notText (fault : Utf8.Fault)
  /-- A file would be copied onto itself; `marked` says how the target is written. -/
  | sameFile (source target : Path) (marked : Bool)
deriving DecidableEq

def Fault.message : Fault → String
  | .refused cause path =>
    "[Errno " ++ toString cause.number ++ "] " ++ cause.reason ++ ": "
      ++ (quoted path.print).str
  | .embeddedNull => "embedded null byte"
  | .notText fault => fault.message
  | .sameFile source target marked =>
    source.marked.str ++ " and "
      ++ (if marked then target.marked else quoted target.print).str ++ " are the same file"

end Gamebook.Files
