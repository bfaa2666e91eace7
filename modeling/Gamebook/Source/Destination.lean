import Gamebook.Story.Conditions

/-!
What a link's target says: `/scene?conditions#toggles`, every part optional.

Conditions are names separated by `&`, each with an optional `!` in front of it that asks for an
unset toggle; toggles are names separated by `+`. A name has ASCII letters, digits and hyphens and
does not start with a hyphen. Case does not count. One line feed may end the target or a name.
-/

namespace Gamebook.Source

open Gamebook.Text Gamebook.Story

structure Destination where
  scene : Option Text
  conditions : Conditions
  toggles : List Text
deriving DecidableEq

namespace Destination

def isNameChar (c : Char) : Bool := c.isAlphanum || c = '-'

def isPlainName : Text → Bool
  | [] => false
  | c :: rest => c.isAlphanum && rest.all isNameChar

/-- A name, or a name and one line feed. -/
def isName (text : Text) : Bool :=
  isPlainName text || (text.getLast? = some '\n' && isPlainName text.dropLast)

def lowerName (name : Text) : Text := name.map Char.toLower

/-- Takes a nonempty run of kept characters behind a mark off the front of a text. -/
def part (mark : Char) (keep : Char → Bool) : Text → Option Text × Text
  | [] => (none, [])
  | c :: text =>
    if c = mark && text.takeWhile keep ≠ [] then
      (some (text.takeWhile keep), text.dropWhile keep)
    else (none, c :: text)

def readCondition? (item : Text) : Option (Text × Bool) :=
  match item with
  | '!' :: name => if isName name then some (lowerName name, false) else none
  | _ => if isName item then some (lowerName item, true) else none

def readConditions? (text : Text) : Option Conditions := do
  let items ← (splitOn '&' text).mapM readCondition?
  return items.foldl (fun conditions (name, wanted) => conditions.put name wanted) .empty

def readToggle? (item : Text) : Option Text :=
  if isName item then some (lowerName item) else none

def readToggles? (text : Text) : Option (List Text) := (splitOn '+' text).mapM readToggle?

/-- Reads the part behind a mark, `none` standing for a part that is not there. -/
def readPart? (read : Text → Option α) (absent : α) : Option Text → Option α
  | none => some absent
  | some text => read text

def read? (target : Text) : Option Destination :=
  let (scene, rest) := part '/' isNameChar target
  let (conditions, rest) := part '?' (· ≠ '#') rest
  let (toggles, rest) := part '#' (· ≠ '\n') rest
  if rest = [] || rest = ['\n'] then do
    let conditions ← readPart? readConditions? .empty conditions
    let toggles ← readPart? readToggles? [] toggles
    return ⟨scene.map lowerName, conditions, toggles⟩
  else none

end Destination

end Gamebook.Source
