import Gamebook.Proofs.Source.Columns
import Gamebook.Proofs.Source.Names
import Gamebook.Proofs.Story.Origin

/-!
The links of a story: each is written in a line of one of its blocks, and the names it holds can be
told apart.
-/

namespace Gamebook.Story

open Gamebook.Text Gamebook.Source

variable {story : Story} {link : Link} {lines : List NumberedLine} {number column : Nat}
  {written : WrittenLink} {blocks : List Block} {checked : Checked}

theorem placeLink_eq_some (placed : (placeLink number column written).1 = some link) :
    ∃ destination, Destination.read? (strip written.target) = some destination ∧
      link = ⟨written, number, column, destination.scene, destination.conditions,
        destination.toggles⟩ := by
  cases read : Destination.read? (strip written.target) with
  | none => simp [placeLink, read] at placed
  | some destination =>
      simp only [placeLink, read, Option.some.injEq] at placed
      exact ⟨destination, rfl, placed.symm⟩

theorem mem_placeLinks (member : link ∈ (placeLinks lines).1) :
    ∃ line ∈ lines, ∃ column written, (column, written) ∈ WrittenLink.ofLine line.text ∧
      (placeLink line.number column written).1 = some link := by
  obtain ⟨entry, placed, taken⟩ := List.mem_filterMap.mp member
  obtain ⟨line, inside, listed⟩ := List.mem_flatMap.mp placed
  obtain ⟨⟨column, written⟩, found, rfl⟩ := List.mem_map.mp listed
  exact ⟨line, inside, column, written, found, taken⟩

def Link.unplaced (link : Link) : Link := { link with line := 0, column := 0 }

def readLink (written : WrittenLink) : Option Link := (placeLink 0 0 written).1

theorem map_unplaced_placeLink (line column : Nat) (written : WrittenLink) :
    (placeLink line column written).1.map Link.unplaced = readLink written := by
  cases read : Destination.read? (strip written.target) with
  | none => simp [placeLink, readLink, read]
  | some destination => simp [placeLink, readLink, read, Link.unplaced]

theorem written_of_readLink (read : readLink written = some link) : link.written = written := by
  obtain ⟨destination, _, rfl⟩ := placeLink_eq_some read
  rfl

/-- The links of a block are those that its lines hold, but for those that cannot be read. -/
theorem map_unplaced_placeLinks (lines : List NumberedLine) :
    (placeLinks lines).1.map Link.unplaced =
      (lines.flatMap fun line => WrittenLink.pattern.tokens line.text).filterMap readLink := by
  unfold placeLinks
  dsimp only
  rw [List.map_filterMap, List.filterMap_flatMap, List.filterMap_flatMap]
  congr 1
  funext line
  rw [List.filterMap_map, Pattern.tokens, ← WrittenLink.map_snd_placed 1, List.filterMap_map]
  congr 1
  funext placed
  exact map_unplaced_placeLink line.number placed.1 placed.2

def Link.IsSeparable (link : Link) : Prop :=
  (∀ key, link.scene = some key → Separable key) ∧ ∀ toggle ∈ link.toggles, Separable toggle

theorem isSeparable_of_placeLinks (member : link ∈ (placeLinks lines).1) : link.IsSeparable := by
  obtain ⟨line, _, column, written, _, placed⟩ := mem_placeLinks member
  obtain ⟨destination, read, rfl⟩ := placeLink_eq_some placed
  exact Destination.read?_eq_some read

theorem mem_allLinks : link ∈ story.allLinks ↔
    (∃ scene ∈ story.allScenes, link ∈ scene.links) ∨
      ∃ action ∈ story.allActions, link ∈ action.links := by
  simp [allLinks, List.mem_flatMap]

/-- Every link stands in one of the blocks. -/
theorem IsBuiltFrom.exists_of_mem_allLinks (built : story.IsBuiltFrom blocks)
    (member : link ∈ story.allLinks) : ∃ block ∈ blocks, link ∈ (placeLinks block.lines).1 := by
  rcases mem_allLinks.mp member with ⟨scene, inside, listed⟩ | ⟨action, inside, listed⟩
  · obtain ⟨block, given, rfl⟩ := built.scenes scene inside
    exact ⟨block, given, listed⟩
  · obtain ⟨block, given, rfl⟩ := built.actions action inside
    exact ⟨block, given, listed⟩

theorem IsBuiltFrom.isSeparable (built : story.IsBuiltFrom blocks) (member : link ∈ story.allLinks) :
    link.IsSeparable := by
  obtain ⟨block, _, listed⟩ := built.exists_of_mem_allLinks member
  exact isSeparable_of_placeLinks listed

theorem separable_of_readStoryHeading {block : Block} {name firstScene : Text}
    (read : readStoryHeading block = .ok (name, firstScene)) : Separable firstScene := by
  unfold readStoryHeading at read
  split at read
  · cases read
  · split at read
    · rename_i found
      cases read
      exact (Destination.read?_eq_some found).1 _ rfl
    · cases read

/-- A story that was read from a text is built from the blocks of the text. -/
theorem isBuiltFrom_of_ofText {text : Text} (accepted : ofText text = .ok checked) :
    checked.story.IsBuiltFrom (Block.ofText (text.dropWhile isByteOrderMark)) := by
  obtain ⟨heading, name, firstScene, _, _, read, _⟩ := ofBlocks_eq_ok accepted
  have built := addBlocks_isBuiltFrom name heading.body firstScene
    (blocksBehind heading (Block.ofText (text.dropWhile isByteOrderMark)))
  rw [← read] at built
  refine ⟨fun scene inside => ?_, fun action inside => ?_⟩
  · obtain ⟨block, member, same⟩ := built.scenes scene inside
    exact ⟨block, (List.mem_filter.mp member).1, same⟩
  · obtain ⟨block, member, same⟩ := built.actions action inside
    exact ⟨block, (List.mem_filter.mp member).1, same⟩

theorem description_of_ofText {text : Text} (accepted : ofText text = .ok checked) :
    ∃ block ∈ Block.ofText (text.dropWhile isByteOrderMark),
      checked.story.description = block.body := by
  obtain ⟨heading, name, firstScene, found, _, built, _⟩ := ofBlocks_eq_ok accepted
  exact ⟨heading, mem_of_storyBlock found, by rw [built, addBlocks_description]⟩

theorem wellKeyed_of_ofText {text : Text} (accepted : ofText text = .ok checked) :
    checked.story.WellKeyed := by
  obtain ⟨_, name, firstScene, _, _, read, _⟩ := ofBlocks_eq_ok accepted
  rw [read]
  exact addBlocks_wellKeyed name _ firstScene _

theorem firstScene_of_ofText {text : Text} (accepted : ofText text = .ok checked) :
    Separable checked.story.firstScene ∧ checked.story.hasScene checked.story.firstScene = true := by
  obtain ⟨_, name, firstScene, _, heading, read, defined, _⟩ := ofBlocks_eq_ok accepted
  have same : checked.story.firstScene = firstScene := by rw [read, addBlocks_firstScene]
  rw [same]
  exact ⟨separable_of_readStoryHeading heading, defined⟩

end Gamebook.Story
