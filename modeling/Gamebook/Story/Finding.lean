import Gamebook.Text.Basic

/-!
Findings of a story check, each a cause at a place, and their printed form.
-/

namespace Gamebook.Story

inductive Cause where
  | invalidHeadingLink (target : Text)
  | sceneHeadingBeyondConditions
  | sceneWithoutName
  | sceneAlreadyDefined (name : Text) (line : Nat)
  | actionHeadingIsLink
  | actionWithoutName
  | actionAlreadyDefined (name : Text) (line : Nat)
  | invalidLinkTarget (target : Text)
  | alternateWithoutCondition
  | emptyLink
  | sceneAlwaysConditional (name : Text)
  | toggleNeverSet (name : Text)
  | undefinedScene (key : Text)
deriving DecidableEq, Repr

namespace Cause

def between (text : Text) : String := "\"" ++ text.str ++ "\""

def message : Cause → String
  | .invalidHeadingLink target => "Invalid scene heading link " ++ between target ++ "."
  | .sceneHeadingBeyondConditions => "Scene headings may only carry conditions."
  | .sceneWithoutName => "Scene heading has no usable name."
  | .sceneAlreadyDefined name line =>
    "Scene " ++ between name ++ " is already defined with the same conditions on line "
      ++ toString line ++ "."
  | .actionHeadingIsLink => "Action headings cannot be links."
  | .actionWithoutName => "Action heading has no usable name."
  | .actionAlreadyDefined name line =>
    "Action " ++ between name ++ " is already defined on line " ++ toString line ++ "."
  | .invalidLinkTarget target => "Invalid link target " ++ between target ++ "."
  | .alternateWithoutCondition => "Alternate link text requires at least one condition."
  | .emptyLink => "Link has no target, conditions, or toggles."
  | .sceneAlwaysConditional name =>
    "Scene " ++ between name ++ " has no version without conditions."
  | .toggleNeverSet name =>
    "Condition " ++ between name ++ " refers to a toggle that is never set."
  | .undefinedScene key => "Link to undefined scene " ++ between key ++ "."

end Cause

def warningLine (line column : Int) (message : String) : String :=
  "Warning L" ++ toString line ++ "," ++ toString column ++ ": " ++ message

/-- The printed form of the warning that nothing leads to a block. -/
def unreachableLine (line : Int) (name kind : String) : String :=
  warningLine line 1 ("\"" ++ name ++ "\": Unreachable " ++ kind)

structure Warning where
  line : Nat
  column : Nat
  cause : Cause
deriving DecidableEq, Repr

def Warning.print (warning : Warning) : String :=
  warningLine warning.line warning.column warning.cause.message

inductive BlockKind where
  | scene
  | action
deriving DecidableEq, Repr

def BlockKind.print : BlockKind → String
  | .scene => "scene"
  | .action => "action"

structure Orphan where
  name : Text
  kind : BlockKind
  line : Nat
deriving DecidableEq, Repr

def Orphan.print (orphan : Orphan) : String :=
  unreachableLine orphan.line orphan.name.str orphan.kind.print

end Gamebook.Story
