import Gamebook.Proofs.Source.Sections
import Gamebook.Proofs.Story.Closed
import Gamebook.Proofs.Story.Distinct
import Gamebook.Proofs.Story.Taking

/-!
Stories told in another order. What stands under a key is settled by the blocks of that key, so a
source whose blocks are rearranged gives the same parts in other places, as long as blocks of one
level and key keep their order.
-/

namespace Gamebook

open Gamebook.Text Gamebook.Source

def Source.Section.isAt (level : Nat) (key : Text) (piece : Section) : Bool :=
  (piece.block 0).isAt level key

theorem Source.Section.same_of_isAt {level : Nat} {key : Text} {left right : Section}
    (inLeft : left.isAt level key = true) (inRight : right.isAt level key = true) :
    left.heading.level = right.heading.level ∧ (left.block 0).key = (right.block 0).key := by
  simp only [Section.isAt, Block.isAt, Bool.and_eq_true, decide_eq_true_eq] at inLeft inRight
  exact ⟨inLeft.1.trans inRight.1.symm, inLeft.2.trans inRight.2.symm⟩

namespace Story

variable {story other : Story} {block : Block} {blocks earlier left right : List Block}
  {checked : Checked} {text rearranged : Text} {key name firstScene : Text}

/-- A text is another one with the blocks behind some point in another order; blocks of the same level
and key follow each other as before. -/
def IsRearranged (text rearranged : Text) : Prop :=
  ∃ (front : List Text) (sections moved : List Section),
    lines (text.dropWhile isByteOrderMark) = front ++ sections.flatMap Section.lines ∧
    lines (rearranged.dropWhile isByteOrderMark) = front ++ moved.flatMap Section.lines ∧
    moved.Perm sections ∧
    ∀ level key, moved.filter (Section.isAt level key) = sections.filter (Section.isAt level key)

def Scene.unplaced (scene : Scene) : Scene :=
  { scene with line := 0, links := scene.links.map Link.unplaced }

def Action.unplaced (action : Action) : Action :=
  { action with line := 0, links := action.links.map Link.unplaced }

theorem readSceneHeading_unplaced (block : Block) :
    (readSceneHeading block.unplaced).1 = (readSceneHeading block).1 ∧
      (readSceneHeading block.unplaced).2.1 = (readSceneHeading block).2.1 := by
  unfold readSceneHeading
  cases whole : WrittenLink.ofWhole? (strip block.heading.text) with
  | none => simp [Block.unplaced, whole]
  | some written =>
      cases read : Destination.read? (strip written.target) <;> simp [Block.unplaced, whole, read]

theorem readActionHeading_unplaced (block : Block) :
    (readActionHeading block.unplaced).1 = (readActionHeading block).1 := by
  unfold readActionHeading
  cases whole : WrittenLink.ofWhole? (strip block.heading.text) <;> simp [Block.unplaced, whole]

theorem placeLinks_unplaced (block : Block) :
    (placeLinks block.unplaced.lines).1.map Link.unplaced =
      (placeLinks block.lines).1.map Link.unplaced := by
  rw [map_unplaced_placeLinks, map_unplaced_placeLinks, Block.unplaced, List.flatMap_map]

theorem Scene.unplaced_ofBlock (block : Block) :
    (Scene.ofBlock block.unplaced).unplaced = (Scene.ofBlock block).unplaced := by
  obtain ⟨name, conditions⟩ := readSceneHeading_unplaced block
  simp [Scene.unplaced, Scene.ofBlock, name, conditions, placeLinks_unplaced]

theorem Action.unplaced_ofBlock (block : Block) :
    (Action.ofBlock block.unplaced).unplaced = (Action.ofBlock block).unplaced := by
  simp [Action.unplaced, Action.ofBlock, readActionHeading_unplaced, placeLinks_unplaced]

theorem repeats_unplaced (first second : Block) :
    repeats first.unplaced second.unplaced = repeats first second := by
  have conditions : ∀ block : Block,
      (Scene.ofBlock block.unplaced).conditions = (Scene.ofBlock block).conditions :=
    fun block => (readSceneHeading_unplaced block).2
  simp only [repeats, conditions]
  rfl

theorem isNew_unplaced (earlier : List Block) (block : Block) :
    isNew (earlier.map Block.unplaced) block.unplaced = isNew earlier block := by
  simp only [isNew, List.all_map, Function.comp_def, repeats_unplaced]
  rfl

theorem map_unplaced_takenFrom (earlier blocks : List Block) :
    (takenFrom earlier blocks).map Block.unplaced =
      takenFrom (earlier.map Block.unplaced) (blocks.map Block.unplaced) := by
  induction blocks generalizing earlier with
  | nil => rfl
  | cons block blocks ih =>
      rw [List.map_cons, takenFrom, takenFrom, isNew_unplaced]
      split
      · rw [List.map_cons, ih, List.map_append, List.map_singleton]
      · exact ih earlier

/-- Under each key the two lists have the same blocks in the same order, whatever their places. -/
def SameParts (left right : List Block) : Prop :=
  ∀ level key, (left.filter (Block.isAt level key)).map Block.unplaced =
    (right.filter (Block.isAt level key)).map Block.unplaced

theorem SameParts.taken (same : SameParts left right) :
    SameParts (takenBlocks left) (takenBlocks right) := by
  intro level key
  unfold takenBlocks
  rw [takenFrom_filter, takenFrom_filter, map_unplaced_takenFrom, map_unplaced_takenFrom, same]

theorem sameParts_of_sections {sections moved : List Section}
    (same : ∀ level key, moved.filter (Section.isAt level key) = sections.filter (Section.isAt level key))
    (front : List Block) (number : Nat) :
    SameParts (front ++ Section.blocks number moved) (front ++ Section.blocks number sections) := by
  have unplaced : ∀ level key (pieces : List Section),
      ((Section.blocks number pieces).filter (Block.isAt level key)).map Block.unplaced =
        (pieces.filter (Section.isAt level key)).map fun piece => (piece.block 0).unplaced := by
    intro level key pieces
    have whole := congrArg (List.filter (Block.isAt level key)) (Section.map_unplaced_blocks number pieces)
    rw [List.filter_map, List.filter_map] at whole
    exact whole
  intro level key
  rw [List.filter_append, List.filter_append, List.map_append, List.map_append, unplaced, unplaced, same]

/-- Two stories have the same parts under each key, each in a place of its own. -/
structure TellsAs (story other : Story) : Prop where
  firstScene : story.firstScene = other.firstScene
  variants : ∀ key, (story.variants key).map Scene.unplaced = (other.variants key).map Scene.unplaced
  action? : ∀ key, (story.action? key).map Action.unplaced = (other.action? key).map Action.unplaced

theorem SameParts.map_ofBlock {β : Type} {read : Block → β} (same : SameParts left right)
    (unplaced : ∀ block, read block.unplaced = read block) (level : Nat) (key : Text) :
    (left.filter (Block.isAt level key)).map read = (right.filter (Block.isAt level key)).map read := by
  have parts := congrArg (List.map read) (same level key)
  simpa only [List.map_map, Function.comp_def, unplaced] using parts

theorem SameParts.tellsAs (same : SameParts left right) (made : story.IsMadeOf left)
    (otherMade : other.IsMadeOf right) (firstScene : story.firstScene = other.firstScene) :
    story.TellsAs other where
  firstScene := firstScene
  variants key := by
    rw [made.variants, otherMade.variants, List.map_map, List.map_map]
    exact same.map_ofBlock Scene.unplaced_ofBlock 2 key
  action? key := by
    rw [made.action?, otherMade.action?, Option.map_map, Option.map_map, ← List.head?_filter,
      ← List.head?_filter, ← List.head?_map, ← List.head?_map]
    exact congrArg List.head? (same.map_ofBlock Action.unplaced_ofBlock 3 key)

theorem TellsAs.hasScene (tells : story.TellsAs other) (keyed : story.WellKeyed)
    (otherKeyed : other.WellKeyed) (defined : other.hasScene key = true) :
    story.hasScene key = true := by
  rw [keyed.hasScene]
  rw [otherKeyed.hasScene] at defined
  intro none
  have same := tells.variants key
  rw [none] at same
  exact defined (List.map_eq_nil_iff.mp same.symm)

theorem storyBlock_append (others : ∀ block ∈ right, block.level = 2 ∨ block.level = 3) :
    storyBlock (left ++ right) = storyBlock left := by
  have none : (right.filter fun block => block.level = 1) = [] := by
    simp only [List.filter_eq_nil_iff, decide_eq_true_eq]
    intro block member level
    rcases others block member with two | three
    · omega
    · omega
  unfold storyBlock
  rw [List.filter_append, none, List.append_nil]

theorem blocksBehind_append {heading : Block} (behind : ∀ block ∈ right, heading.line ≤ block.line) :
    blocksBehind heading (left ++ right) = blocksBehind heading left ++ right := by
  unfold blocksBehind
  rw [List.filter_append, List.filter_eq_self.mpr fun block member => decide_eq_true (behind block member)]

theorem exists_ofBlocks_eq_ok {heading : Block} (found : storyBlock blocks = .ok heading)
    (read : readStoryHeading heading = .ok (name, firstScene))
    (added : story = (addBlocks ⟨name, heading.body, firstScene, [], []⟩
      (blocksBehind heading blocks)).1)
    (defined : story.hasScene firstScene = true) :
    ∃ checked, ofBlocks blocks = .ok checked ∧ checked.story = story := by
  subst added
  unfold blocksBehind at defined ⊢
  simp only [ofBlocks, found, read, bind, Except.bind]
  exact ⟨_, if_pos defined, rfl⟩

/-- Behind the heading of the story stand the sections, wherever they are moved. -/
theorem blocksBehind_of_sections {front : List Text} {sections : List Section} {heading : Block}
    (cut : lines text = front ++ sections.flatMap Section.lines)
    (member : heading ∈ (Block.gather (Block.numberFrom 1 front)).2) :
    blocksBehind heading (Block.ofText text) =
      blocksBehind heading (Block.gather (Block.numberFrom 1 front)).2 ++
        Section.blocks (1 + front.length) sections := by
  have ordered := Block.pairwise_ofText text
  rw [Section.ofText_of_sections cut] at ordered ⊢
  refine blocksBehind_append fun block inSections => ?_
  exact Nat.le_of_lt ((List.pairwise_append.mp ordered).2.2 heading member block inSections)

theorem storyBlock_of_sections {front : List Text} {sections : List Section}
    (cut : lines text = front ++ sections.flatMap Section.lines) :
    storyBlock (Block.ofText text) = storyBlock (Block.gather (Block.numberFrom 1 front)).2 := by
  rw [Section.ofText_of_sections cut]
  exact storyBlock_append fun block member => (Section.mem_blocks member).2

/-- A text whose blocks are rearranged is read as well, and tells the same. -/
theorem exists_tellsAs_of_isRearranged (arranged : IsRearranged text rearranged)
    (accepted : ofText text = .ok checked) :
    ∃ again, ofText rearranged = .ok again ∧ again.story.TellsAs checked.story := by
  obtain ⟨front, sections, moved, cut, cutAgain, _, same⟩ := arranged
  obtain ⟨heading, name, firstScene, found, read, added, defined, _, _⟩ := ofBlocks_eq_ok accepted
  rw [storyBlock_of_sections cut] at found
  have member := mem_of_storyBlock found
  rw [blocksBehind_of_sections cut member] at added
  have parts := sameParts_of_sections same
    (blocksBehind heading (Block.gather (Block.numberFrom 1 front)).2) (1 + front.length)
  have made := addBlocks_isMadeOf name heading.body firstScene
  have tells := parts.taken.tellsAs (made _) (made _)
    ((addBlocks_firstScene _ _).trans (addBlocks_firstScene _ _).symm)
  rw [← added] at tells
  have keyed := addBlocks_wellKeyed name heading.body firstScene
  have definedAgain := tells.hasScene (keyed _) (added ▸ keyed _) defined
  have foundAgain := (storyBlock_of_sections cutAgain).trans found
  rw [← blocksBehind_of_sections cutAgain member] at tells definedAgain
  obtain ⟨again, acceptedAgain, same⟩ := exists_ofBlocks_eq_ok foundAgain read rfl definedAgain
  exact ⟨again, acceptedAgain, same ▸ tells⟩

end Story

end Gamebook
