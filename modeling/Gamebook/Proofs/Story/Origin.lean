import Gamebook.Proofs.Source.Blocks
import Gamebook.Proofs.Text.Items
import Gamebook.Story.Reading

/-!
Where the parts of a story come from: each scene and each action is the reading of one block of the
source, and a block that is left out leaves a warning.
-/

namespace Gamebook.Story

open Gamebook.Text Gamebook.Source

variable {story next : Story} {block : Block} {blocks : List Block} {warnings : List Warning}
  {key : Text} {scene : Scene} {action : Action}

def Scene.ofBlock (block : Block) : Scene where
  key := Key.ofName (readSceneHeading block).1
  name := strip (readSceneHeading block).1
  description := block.body
  line := block.line
  conditions := (readSceneHeading block).2.1
  links := (placeLinks block.lines).1

def Action.ofBlock (block : Block) : Action where
  key := Key.ofName (readActionHeading block).1
  name := strip (readActionHeading block).1
  description := block.body
  line := block.line
  links := (placeLinks block.lines).1

/-- No variant of the scene asks for the same toggles yet. -/
def Scene.IsNewIn (scene : Scene) (story : Story) : Prop :=
  ∀ variant ∈ story.variants scene.key, variant.conditions.agrees scene.conditions = false

def Action.IsNewIn (action : Action) (story : Story) : Prop := story.action? action.key = none

theorem addSceneBlock_cases (story : Story) (block : Block) :
    (Scene.ofBlock block).IsNewIn story ∧
        (addSceneBlock story block).1 = story.addScene (.ofBlock block) ∨
      (addSceneBlock story block).1 = story ∧ (addSceneBlock story block).2 ≠ [] := by
  by_cases unnamed : Key.ofName (readSceneHeading block).1 = []
  · exact .inr ⟨by simp [addSceneBlock, unnamed], by simp [addSceneBlock, unnamed]⟩
  · cases taken : (story.variants (Key.ofName (readSceneHeading block).1)).find?
        fun variant => variant.conditions.agrees (readSceneHeading block).2.1 with
    | none =>
        refine .inl ⟨fun variant listed => ?_, by simp [addSceneBlock, unnamed, taken, Scene.ofBlock]⟩
        exact Bool.eq_false_iff.mpr (List.find?_eq_none.mp taken variant listed)
    | some variant =>
        exact .inr ⟨by simp [addSceneBlock, unnamed, taken],
          by simp [addSceneBlock, unnamed, taken]⟩

theorem addActionBlock_cases (story : Story) (block : Block) :
    (Action.ofBlock block).IsNewIn story ∧
        (addActionBlock story block).1 = story.addAction (.ofBlock block) ∨
      (addActionBlock story block).1 = story ∧ (addActionBlock story block).2 ≠ [] := by
  by_cases unnamed : Key.ofName (readActionHeading block).1 = []
  · exact .inr ⟨by simp [addActionBlock, unnamed], by simp [addActionBlock, unnamed]⟩
  · cases taken : story.action? (Key.ofName (readActionHeading block).1) with
    | none => exact .inl ⟨taken, by simp [addActionBlock, unnamed, taken, Action.ofBlock]⟩
    | some action =>
        exact .inr ⟨by simp [addActionBlock, unnamed, taken],
          by simp [addActionBlock, unnamed, taken]⟩

theorem addBlock_cases (story : Story) (block : Block) :
    (addBlock story block).1 = story ∨
      (Scene.ofBlock block).IsNewIn story ∧
        (addBlock story block).1 = story.addScene (.ofBlock block) ∨
      (Action.ofBlock block).IsNewIn story ∧
        (addBlock story block).1 = story.addAction (.ofBlock block) := by
  unfold addBlock
  split
  · rcases addSceneBlock_cases story block with added | ⟨same, _⟩
    · exact .inr (.inl added)
    · exact .inl same
  · rcases addActionBlock_cases story block with added | ⟨same, _⟩
    · exact .inr (.inr added)
    · exact .inl same
  · exact .inl rfl

/-- What holds of a story, and still holds when the new scene or the new action of a block is added,
holds of the story with all blocks added. -/
theorem addBlocks_induction {motive : Story → Prop} (first : motive story)
    (withScene : ∀ story, motive story → ∀ block ∈ blocks, (Scene.ofBlock block).IsNewIn story →
      motive (story.addScene (.ofBlock block)))
    (withAction : ∀ story, motive story → ∀ block ∈ blocks, (Action.ofBlock block).IsNewIn story →
      motive (story.addAction (.ofBlock block))) :
    motive (addBlocks story blocks).1 := by
  induction blocks generalizing story with
  | nil => exact first
  | cons block blocks ih =>
      have second : motive (addBlock story block).1 := by
        rcases addBlock_cases story block with same | ⟨new, added⟩ | ⟨new, added⟩
        · rw [same]
          exact first
        · rw [added]
          exact withScene story first block (by simp) new
        · rw [added]
          exact withAction story first block (by simp) new
      exact ih second
        (fun story holds other member => withScene story holds other (by simp [member]))
        (fun story holds other member => withAction story holds other (by simp [member]))

theorem addBlocks_firstScene (story : Story) (blocks : List Block) :
    (addBlocks story blocks).1.firstScene = story.firstScene :=
  addBlocks_induction (motive := fun next => next.firstScene = story.firstScene) rfl
    (fun _ same _ _ _ => same) (fun _ same _ _ _ => same)

theorem addBlocks_description (story : Story) (blocks : List Block) :
    (addBlocks story blocks).1.description = story.description :=
  addBlocks_induction (motive := fun next => next.description = story.description) rfl
    (fun _ same _ _ _ => same) (fun _ same _ _ _ => same)

/-- Every entry of the table of scenes has variants, all of them under their own key. -/
def WellKeyed (story : Story) : Prop :=
  ∀ entry ∈ story.scenes, entry.2 ≠ [] ∧ ∀ scene ∈ entry.2, scene.key = entry.1

theorem mem_addVariant {entry : Text × List Scene} {table : List (Text × List Scene)}
    (member : entry ∈ addVariant scene table) :
    entry ∈ table ∨ entry = (scene.key, [scene]) ∨
      ∃ variants, (scene.key, variants) ∈ table ∧ entry = (scene.key, variants ++ [scene]) := by
  induction table with
  | nil => exact .inr (.inl (by simpa [addVariant] using member))
  | cons other table ih =>
      obtain ⟨key, variants⟩ := other
      by_cases same : key = scene.key
      · subst same
        simp only [addVariant, if_pos] at member
        rcases List.mem_cons.mp member with rfl | member
        · exact .inr (.inr ⟨variants, by simp, rfl⟩)
        · exact .inl (by simp [member])
      · simp only [addVariant, if_neg same] at member
        rcases List.mem_cons.mp member with rfl | member
        · exact .inl (by simp)
        · rcases ih member with known | fresh | ⟨variants, known, equal⟩
          · exact .inl (by simp [known])
          · exact .inr (.inl fresh)
          · exact .inr (.inr ⟨variants, by simp [known], equal⟩)

theorem WellKeyed.addScene (keyed : story.WellKeyed) (scene : Scene) :
    (story.addScene scene).WellKeyed := by
  intro entry member
  rcases mem_addVariant member with known | rfl | ⟨variants, known, rfl⟩
  · exact keyed entry known
  · exact ⟨by simp, by simp⟩
  · refine ⟨by simp, fun other inside => ?_⟩
    rcases List.mem_append.mp inside with old | new
    · exact (keyed _ known).2 other old
    · rw [List.mem_singleton.mp new]

theorem addBlocks_wellKeyed (name description firstScene : Text) (blocks : List Block) :
    (addBlocks ⟨name, description, firstScene, [], []⟩ blocks).1.WellKeyed :=
  addBlocks_induction (by simp [WellKeyed]) (fun _ keyed _ _ _ => keyed.addScene _)
    (fun _ keyed _ _ _ => keyed)

theorem WellKeyed.hasScene (keyed : story.WellKeyed) :
    story.hasScene key = true ↔ story.variants key ≠ [] := by
  unfold Story.hasScene Story.variants
  cases found : story.scenes.lookup key with
  | none => simp
  | some variants => simpa using (keyed _ (mem_of_lookup found)).1

theorem mem_allScenes_addScene {other : Scene}
    (member : other ∈ (story.addScene scene).allScenes) :
    other ∈ story.allScenes ∨ other = scene := by
  obtain ⟨entry, listed, inside⟩ := List.mem_flatMap.mp member
  rcases mem_addVariant listed with known | rfl | ⟨variants, known, rfl⟩
  · exact .inl (List.mem_flatMap.mpr ⟨entry, known, inside⟩)
  · exact .inr (List.mem_singleton.mp inside)
  · rcases List.mem_append.mp inside with old | new
    · exact .inl (List.mem_flatMap.mpr ⟨_, known, old⟩)
    · exact .inr (List.mem_singleton.mp new)

theorem mem_allActions_addAction {other : Action} :
    other ∈ (story.addAction action).allActions ↔ other ∈ story.allActions ∨ other = action := by
  simp [allActions, addAction]

/-- Every scene and every action is that of one of these blocks. -/
structure IsBuiltFrom (story : Story) (blocks : List Block) : Prop where
  scenes : ∀ scene ∈ story.allScenes, ∃ block ∈ blocks, scene = .ofBlock block
  actions : ∀ action ∈ story.allActions, ∃ block ∈ blocks, action = .ofBlock block

theorem addBlocks_isBuiltFrom (name description firstScene : Text) (blocks : List Block) :
    (addBlocks ⟨name, description, firstScene, [], []⟩ blocks).1.IsBuiltFrom blocks := by
  refine addBlocks_induction (motive := fun story => story.IsBuiltFrom blocks)
    ⟨by simp [allScenes], by simp [allActions]⟩ ?_ ?_
  · intro story built block member _
    refine ⟨fun scene inside => ?_, built.actions⟩
    rcases mem_allScenes_addScene inside with old | rfl
    · exact built.scenes scene old
    · exact ⟨block, member, rfl⟩
  · intro story built block member _
    refine ⟨built.scenes, fun action inside => ?_⟩
    rcases mem_allActions_addAction.mp inside with old | rfl
    · exact built.actions action old
    · exact ⟨block, member, rfl⟩

theorem mem_allScenes_of_variants (member : scene ∈ story.variants key) :
    scene ∈ story.allScenes := by
  cases found : story.scenes.lookup key with
  | none => simp [variants, found] at member
  | some list =>
      rw [variants, found, Option.getD_some] at member
      exact List.mem_flatMap.mpr ⟨_, mem_of_lookup found, member⟩

theorem mem_allActions_of_action? (found : story.action? key = some action) :
    action ∈ story.allActions :=
  List.mem_map.mpr ⟨_, mem_of_lookup found, rfl⟩

/-- The lines of a source without the marks in front of it. -/
def sourceLines (text : Text) : List Text := lines (text.dropWhile isByteOrderMark)

/-- The headings that a story can have, each with the number of its line. -/
def storyHeadings (texts : List Text) : List (Nat × Heading) :=
  (Block.headings (Block.numberFrom 1 texts)).filter fun entry => entry.2.level = 1

theorem storyHeadings_sourceLines (text : Text) : storyHeadings (sourceLines text) =
    ((Block.ofText (text.dropWhile isByteOrderMark)).filter fun block => block.level = 1).map
      fun block => (block.line, block.heading) := by
  rw [storyHeadings, ← Block.map_heading_gather, List.filter_map]
  rfl

/-- The blocks from the heading of the story on; what stands before it is ignored. -/
def blocksBehind (heading : Block) (blocks : List Block) : List Block :=
  blocks.filter fun other => heading.line ≤ other.line

theorem ofBlocks_eq_ok {checked : Checked} (accepted : ofBlocks blocks = .ok checked) :
    ∃ heading name firstScene, storyBlock blocks = .ok heading ∧
      readStoryHeading heading = .ok (name, firstScene) ∧
      checked.story =
        (addBlocks ⟨name, heading.body, firstScene, [], []⟩ (blocksBehind heading blocks)).1 ∧
      checked.story.hasScene firstScene = true ∧ checked.orphans = checked.story.orphans ∧
      checked.warnings =
        (addBlocks ⟨name, heading.body, firstScene, [], []⟩ (blocksBehind heading blocks)).2 ++
          checked.story.referenceWarnings := by
  obtain ⟨heading, found, accepted⟩ := bind_eq_ok.mp accepted
  obtain ⟨⟨name, firstScene⟩, read, accepted⟩ := bind_eq_ok.mp accepted
  dsimp only at accepted
  split at accepted
  · rename_i defined
    cases accepted
    exact ⟨heading, name, firstScene, found, read, rfl, defined, rfl, rfl⟩
  · cases accepted

theorem filter_of_storyBlock {heading : Block} (found : storyBlock blocks = .ok heading) :
    (blocks.filter fun block => block.level = 1) = [heading] := by
  unfold storyBlock at found
  split at found
  · cases found
  · rename_i only
    cases found
    exact only
  · cases found

theorem mem_of_storyBlock {heading : Block} (found : storyBlock blocks = .ok heading) :
    heading ∈ blocks := by
  have only : heading ∈ blocks.filter fun block => block.level = 1 := by
    rw [filter_of_storyBlock found]
    exact List.mem_singleton_self heading
  exact List.mem_of_mem_filter only

end Gamebook.Story
