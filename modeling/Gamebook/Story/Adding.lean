import Gamebook.Source.Block
import Gamebook.Source.Key
import Gamebook.Story.Basic
import Gamebook.Story.Finding
import Gamebook.Text.Blank

/-!
Adding the blocks of a source to a story.

A block without a usable name, a second variant of a scene with the same conditions and a second
action of a name are left out with a warning. Every link of a block that is taken becomes a link of
the story, or a warning if its target cannot be read.
-/

namespace Gamebook.Story

open Gamebook.Text Gamebook.Source

/-- A link as the story keeps it, with the warnings about it. -/
def placeLink (line column : Nat) (written : WrittenLink) : Option Link × List Warning :=
  let target := strip written.target
  match Destination.read? target with
  | none => (none, [⟨line, column, .invalidLinkTarget target⟩])
  | some destination =>
    let alternate :=
      if written.alternate?.isSome && destination.conditions.isEmpty then
        [⟨line, column, .alternateWithoutCondition⟩]
      else []
    let empty :=
      if destination.scene = none && destination.conditions.isEmpty && destination.toggles = [] then
        [⟨line, column, .emptyLink⟩]
      else []
    (some ⟨written, line, column, destination.scene, destination.conditions, destination.toggles⟩,
      alternate ++ empty)

/-- The links of a block's lines, and the warnings about them in the order of the links. -/
def placeLinks (lines : List NumberedLine) : List Link × List Warning :=
  let placed := lines.flatMap fun line =>
    (WrittenLink.ofLine line.text).map fun (column, written) =>
      placeLink line.number column written
  (placed.filterMap Prod.fst, placed.flatMap Prod.snd)

/-- The name and the conditions that a scene's heading gives, with the warnings about it. -/
def readSceneHeading (block : Block) : Text × Conditions × List Warning :=
  match WrittenLink.ofWhole? (strip block.heading.text) with
  | none => (block.heading.text, .empty, [])
  | some written =>
    let target := strip written.target
    match Destination.read? target with
    | none => (written.text, .empty, [⟨block.line, 1, .invalidHeadingLink target⟩])
    | some destination =>
      (written.text, destination.conditions,
        if destination.scene.isSome || destination.toggles ≠ [] then
          [⟨block.line, 1, .sceneHeadingBeyondConditions⟩]
        else [])

/-- Adds a scene block, unless it has no usable name or repeats the conditions of a variant. -/
def addSceneBlock (story : Story) (block : Block) : Story × List Warning :=
  let (name, conditions, warnings) := readSceneHeading block
  let key := Key.ofName name
  if key = [] then (story, warnings ++ [⟨block.line, 1, .sceneWithoutName⟩])
  else
    match (story.variants key).find? fun variant => variant.conditions.agrees conditions with
    | some variant =>
      (story, warnings ++ [⟨block.line, 1, .sceneAlreadyDefined (strip name) variant.line⟩])
    | none =>
      let (links, linkWarnings) := placeLinks block.lines
      (story.addScene ⟨key, strip name, block.body, block.line, conditions, links⟩,
        warnings ++ linkWarnings)

/-- The name that an action's heading gives, with the warnings about it. -/
def readActionHeading (block : Block) : Text × List Warning :=
  match WrittenLink.ofWhole? (strip block.heading.text) with
  | none => (block.heading.text, [])
  | some written => (written.text, [⟨block.line, 1, .actionHeadingIsLink⟩])

/-- Adds an action block, unless it has no usable name or its name is taken. -/
def addActionBlock (story : Story) (block : Block) : Story × List Warning :=
  let (name, warnings) := readActionHeading block
  let key := Key.ofName name
  if key = [] then (story, warnings ++ [⟨block.line, 1, .actionWithoutName⟩])
  else
    match story.action? key with
    | some action =>
      (story, warnings ++ [⟨block.line, 1, .actionAlreadyDefined (strip name) action.line⟩])
    | none =>
      let (links, linkWarnings) := placeLinks block.lines
      (story.addAction ⟨key, strip name, block.body, block.line, links⟩, warnings ++ linkWarnings)

/-- Adds a block by the level of its heading; a story's own heading adds nothing. -/
def addBlock (story : Story) (block : Block) : Story × List Warning :=
  match block.level with
  | 2 => addSceneBlock story block
  | 3 => addActionBlock story block
  | _ => (story, [])

def addBlocks (story : Story) : List Block → Story × List Warning
  | [] => (story, [])
  | block :: blocks =>
    let (next, warnings) := addBlock story block
    let (last, more) := addBlocks next blocks
    (last, warnings ++ more)

end Gamebook.Story
