import Gamebook.Story.Adding
import Gamebook.Story.Orphans
import Gamebook.Story.References

/-!
Reading a story from its source.

The source has one block of level one, whose heading is a link to the first scene; the scenes
(level two) and actions (level three) behind it make the story. Everything in front of that block
is ignored. A source of another shape is refused with the first fault in this order: no story
block, a second one, a heading that is no link, a link that leads to no scene, no first scene.
-/

namespace Gamebook.Story

open Gamebook.Text Gamebook.Source

/-- Why a source is no story, with the line of the fault. -/
inductive Fault where
  | noStoryBlock
  | secondStoryBlock (line : Nat)
  | headingIsNoLink (line : Nat)
  | headingLeadsNowhere (line : Nat)
  | undefinedFirstScene (key : Text) (line : Nat)
deriving DecidableEq, Repr

namespace Fault

def line? : Fault → Option Nat
  | .noStoryBlock => none
  | .secondStoryBlock line => some line
  | .headingIsNoLink line => some line
  | .headingLeadsNowhere line => some line
  | .undefinedFirstScene _ line => some line

def reason : Fault → String
  | .noStoryBlock => "No story block found."
  | .secondStoryBlock _ => "More than one story block found."
  | .headingIsNoLink _ => "Story block heading must be a link to the first scene."
  | .headingLeadsNowhere _ => "Story block heading must link to a scene."
  | .undefinedFirstScene key _ =>
    "Story links to undefined first scene " ++ Cause.between key ++ "."

def message (fault : Fault) : String :=
  match fault.line? with
  | none => fault.reason
  | some line => "L" ++ toString line ++ ": " ++ fault.reason

end Fault

structure Checked where
  story : Story
  orphans : List Orphan
  warnings : List Warning

def readStoryHeading (block : Block) : Except Fault (Text × Text) :=
  match WrittenLink.ofWhole? (strip block.heading.text) with
  | none => .error (.headingIsNoLink block.line)
  | some written =>
    match Destination.read? (strip written.target) with
    | some ⟨some key, _, _⟩ => .ok (strip written.text, key)
    | _ => .error (.headingLeadsNowhere block.line)

def storyBlock (blocks : List Block) : Except Fault Block :=
  match blocks.filter fun block => block.level = 1 with
  | [] => .error .noStoryBlock
  | [block] => .ok block
  | _ :: second :: _ => .error (.secondStoryBlock second.line)

def ofBlocks (blocks : List Block) : Except Fault Checked := do
  let block ← storyBlock blocks
  let (name, firstScene) ← readStoryHeading block
  let behind := blocks.filter fun other => block.line ≤ other.line
  let (story, warnings) := addBlocks ⟨name, block.body, firstScene, [], []⟩ behind
  if story.hasScene firstScene then
    return ⟨story, story.orphans, warnings ++ story.referenceWarnings⟩
  else throw (.undefinedFirstScene firstScene block.line)

def isByteOrderMark (c : Char) : Bool := c = '\ufeff'

def ofText (text : Text) : Except Fault Checked :=
  ofBlocks (Block.ofText (text.dropWhile isByteOrderMark))

end Gamebook.Story
