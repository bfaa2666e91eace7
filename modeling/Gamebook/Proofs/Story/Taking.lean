import Gamebook.Proofs.Source.Blocks
import Gamebook.Proofs.Story.Origin

/-!
The blocks that become part of a story, told from the blocks alone: a block of level two or three is
taken if its heading gives a name and no block taken before repeats it. All others of these levels are
refused, each with one warning.
-/

namespace Gamebook

open Gamebook.Text Gamebook.Source

namespace Source.Block

/-- The name in a heading: the text of the link if the heading is one. -/
def title (block : Block) : Text :=
  match WrittenLink.ofWhole? (strip block.heading.text) with
  | none => block.heading.text
  | some written => written.text

def key (block : Block) : Text := Key.ofName block.title

/-- Blocks of this kind are scenes or actions; a story's own block is neither. -/
def isPart (block : Block) : Bool := block.level = 2 || block.level = 3

def isAt (level : Nat) (key : Text) (block : Block) : Bool := block.level = level && block.key = key

end Source.Block

namespace Story

open Source (Block)

variable {story : Story} {block other : Block} {blocks earlier : List Block}

theorem readSceneHeading_title (block : Block) : (readSceneHeading block).1 = block.title := by
  unfold readSceneHeading Block.title
  cases WrittenLink.ofWhole? (strip block.heading.text) with
  | none => rfl
  | some written =>
      cases read : Destination.read? (strip written.target) <;> simp [read]

theorem readActionHeading_title (block : Block) : (readActionHeading block).1 = block.title := by
  unfold readActionHeading Block.title
  cases WrittenLink.ofWhole? (strip block.heading.text) <;> rfl

@[simp] theorem Scene.key_ofBlock (block : Block) : (Scene.ofBlock block).key = block.key :=
  congrArg Key.ofName (readSceneHeading_title block)

@[simp] theorem Action.key_ofBlock (block : Block) : (Action.ofBlock block).key = block.key :=
  congrArg Key.ofName (readActionHeading_title block)

/-- A part of a story that a block of its source gives. -/
inductive Entry where
  | scene (scene : Scene)
  | action (action : Action)
deriving DecidableEq

namespace Entry

def line : Entry → Nat
  | .scene given => given.line
  | .action given => given.line

def key : Entry → Text
  | .scene given => given.key
  | .action given => given.key

def links : Entry → List Link
  | .scene given => given.links
  | .action given => given.links

/-- What a block of level two or three is read as. -/
def ofBlock (block : Block) : Entry :=
  if block.level = 2 then .scene (.ofBlock block) else .action (.ofBlock block)

@[simp] theorem line_ofBlock (block : Block) : (ofBlock block).line = block.line := by
  unfold ofBlock
  split <;> rfl

@[simp] theorem key_ofBlock (block : Block) : (ofBlock block).key = block.key := by
  unfold ofBlock
  split
  · exact Scene.key_ofBlock block
  · exact Action.key_ofBlock block

@[simp] theorem links_ofBlock (block : Block) :
    (ofBlock block).links = (placeLinks block.lines).1 := by
  unfold ofBlock
  split <;> rfl

end Entry

def entries (story : Story) : List Entry :=
  story.allScenes.map .scene ++ story.allActions.map .action

def addEntry (story : Story) : Entry → Story
  | .scene scene => story.addScene scene
  | .action action => story.addAction action

/-- The second block names again what the first one names: a scene under the same conditions, or an
action. -/
def repeats (first second : Block) : Bool :=
  first.isAt second.level second.key &&
    (second.level ≠ 2 || (Scene.ofBlock first).conditions.agrees (Scene.ofBlock second).conditions)

/-- The block has a usable name, and none of the blocks taken before is repeated by it. -/
def isNew (earlier : List Block) (block : Block) : Bool :=
  block.isPart && block.key ≠ [] && earlier.all fun other => !repeats other block

/-- The blocks that are taken when those in `earlier` have been taken before. -/
def takenFrom (earlier : List Block) : List Block → List Block
  | [] => []
  | block :: blocks =>
    if isNew earlier block then block :: takenFrom (earlier ++ [block]) blocks
    else takenFrom earlier blocks

/-- The blocks of level two or three that are not taken. -/
def refusedFrom (earlier : List Block) : List Block → List Block
  | [] => []
  | block :: blocks =>
    if isNew earlier block then refusedFrom (earlier ++ [block]) blocks
    else if block.isPart then block :: refusedFrom earlier blocks
    else refusedFrom earlier blocks

theorem takenFrom_sublist (earlier blocks : List Block) : (takenFrom earlier blocks).Sublist blocks := by
  induction blocks generalizing earlier with
  | nil => exact .slnil
  | cons block blocks ih =>
      simp only [takenFrom]
      split
      · exact (ih _).cons_cons block
      · exact (ih _).cons block

theorem isNew_of_mem_takenFrom (member : block ∈ takenFrom earlier blocks) :
    block.isPart = true ∧ block.key ≠ [] := by
  induction blocks generalizing earlier with
  | nil => cases member
  | cons first blocks ih =>
      simp only [takenFrom] at member
      split at member
      · rename_i new
        rcases List.mem_cons.mp member with rfl | later
        · simp only [isNew, Bool.and_eq_true, decide_eq_true_eq] at new
          exact new.1
        · exact ih later
      · exact ih member

/-- Every block of these levels is taken or refused. -/
theorem takenFrom_append_refusedFrom_perm (earlier blocks : List Block) :
    (takenFrom earlier blocks ++ refusedFrom earlier blocks).Perm (blocks.filter Block.isPart) := by
  induction blocks generalizing earlier with
  | nil => exact .nil
  | cons block blocks ih =>
      simp only [takenFrom, refusedFrom]
      by_cases new : isNew earlier block = true
      · have part : block.isPart = true := by
          simp only [isNew, Bool.and_eq_true] at new
          exact new.1.1
        simpa [new, part] using ih (earlier ++ [block])
      · by_cases part : block.isPart = true
        · simp only [new, part, if_true, Bool.false_eq_true, if_false, List.filter_cons_of_pos]
          exact List.perm_middle.trans ((ih earlier).cons block)
        · simpa [new, part] using ih earlier

/-- Whether a block is taken is settled by the blocks of its level under its key. -/
theorem isNew_filter (earlier : List Block) (block : Block) :
    isNew (earlier.filter (Block.isAt block.level block.key)) block = isNew earlier block := by
  unfold isNew
  rw [List.all_filter]
  congr 2
  funext other
  unfold repeats
  cases other.isAt block.level block.key <;> rfl

theorem takenFrom_filter (level : Nat) (key : Text) (earlier blocks : List Block) :
    (takenFrom earlier blocks).filter (Block.isAt level key) =
      takenFrom (earlier.filter (Block.isAt level key)) (blocks.filter (Block.isAt level key)) := by
  induction blocks generalizing earlier with
  | nil => rfl
  | cons block blocks ih =>
      by_cases here : block.isAt level key = true
      · have same := here
        simp only [Block.isAt, Bool.and_eq_true, decide_eq_true_eq] at same
        have settled := isNew_filter earlier block
        rw [same.1, same.2] at settled
        rw [List.filter_cons_of_pos here, takenFrom, takenFrom, settled]
        split
        · rw [List.filter_cons_of_pos here, ih, List.filter_append, List.filter_cons_of_pos here,
            List.filter_nil]
        · exact ih earlier
      · rw [List.filter_cons_of_neg here, takenFrom]
        split
        · rw [List.filter_cons_of_neg here, ih, List.filter_append, List.filter_cons_of_neg here,
            List.filter_nil, List.append_nil]
        · exact ih earlier

theorem variants_addScene (story : Story) (scene : Scene) (key : Text) :
    (story.addScene scene).variants key =
      story.variants key ++ if scene.key = key then [scene] else [] := by
  obtain ⟨name, description, firstScene, table, actions⟩ := story
  unfold variants addScene
  induction table with
  | nil =>
      by_cases same : scene.key = key
      · simp [addVariant, same]
      · have other : (key == scene.key) = false := by simpa using Ne.symm same
        simp [addVariant, List.lookup_cons, other, same]
  | cons entry table ih =>
      obtain ⟨first, variants⟩ := entry
      by_cases inFirst : first = scene.key
      · by_cases same : scene.key = key
        · simp [addVariant, inFirst, same]
        · have other : (key == scene.key) = false := by simpa using Ne.symm same
          simp [addVariant, inFirst, List.lookup_cons, other, same]
      · by_cases here : key = first
        · have other : scene.key ≠ key := fun same => inFirst (here.symm.trans same.symm)
          simp [addVariant, inFirst, here, Ne.symm inFirst]
        · have apart : (key == first) = false := by simpa using here
          simpa [addVariant, inFirst, List.lookup_cons, apart] using ih

theorem addVariant_perm (scene : Scene) (table : List (Text × List Scene)) :
    ((addVariant scene table).flatMap Prod.snd).Perm (table.flatMap Prod.snd ++ [scene]) := by
  induction table with
  | nil => simp [addVariant]
  | cons entry table ih =>
      obtain ⟨first, variants⟩ := entry
      by_cases inFirst : first = scene.key
      · have moved := (List.perm_append_singleton scene (table.flatMap Prod.snd)).symm
        simpa [addVariant, inFirst] using moved.append_left variants
      · simpa [addVariant, inFirst] using ih.append_left variants

theorem entries_addEntry_perm (story : Story) (entry : Entry) :
    (story.addEntry entry).entries.Perm (story.entries ++ [entry]) := by
  cases entry with
  | scene scene =>
      have scenes := (addVariant_perm scene story.scenes).map Entry.scene
      rw [List.map_append, List.map_singleton] at scenes
      have whole := scenes.append_right (story.allActions.map Entry.action)
      apply whole.trans
      have moved := (List.perm_append_singleton (Entry.scene scene)
        (story.allActions.map Entry.action)).symm
      simpa [entries, allScenes] using moved.append_left (story.allScenes.map Entry.scene)
  | action action => simp [addEntry, entries, addAction, allActions, allScenes]

/-- What a story holds under each key, and in all, is what these blocks give. -/
structure IsMadeOf (story : Story) (blocks : List Block) : Prop where
  variants : ∀ key, story.variants key = (blocks.filter (Block.isAt 2 key)).map Scene.ofBlock
  action? : ∀ key, story.action? key = (blocks.find? (Block.isAt 3 key)).map Action.ofBlock
  entries : story.entries.Perm (blocks.map Entry.ofBlock)

theorem isMadeOf_nil (name description firstScene : Text) :
    IsMadeOf ⟨name, description, firstScene, [], []⟩ [] :=
  ⟨fun _ => rfl, fun _ => rfl, .nil⟩

theorem IsMadeOf.addEntry (made : story.IsMadeOf earlier) (part : block.isPart = true) :
    (story.addEntry (.ofBlock block)).IsMadeOf (earlier ++ [block]) := by
  have entries : (story.addEntry (.ofBlock block)).entries.Perm
      ((earlier ++ [block]).map Entry.ofBlock) := by
    rw [List.map_append, List.map_singleton]
    exact (entries_addEntry_perm story _).trans (made.entries.append_right _)
  simp only [Block.isPart, Bool.or_eq_true, decide_eq_true_eq] at part
  rcases part with level | level
  · have added : story.addEntry (.ofBlock block) = story.addScene (.ofBlock block) := by
      simp [Entry.ofBlock, level, Story.addEntry]
    refine ⟨fun key => ?_, fun key => ?_, entries⟩
    · rw [added, variants_addScene, made.variants, List.filter_append, List.map_append,
        Scene.key_ofBlock]
      by_cases same : block.key = key <;> simp [Block.isAt, level, same]
    · rw [added, List.find?_append, List.find?_cons_of_neg (by simp [Block.isAt, level])]
      simpa [Story.action?, addScene] using made.action? key
  · have added : story.addEntry (.ofBlock block) = story.addAction (.ofBlock block) := by
      simp [Entry.ofBlock, level, Story.addEntry]
    refine ⟨fun key => ?_, fun key => ?_, entries⟩
    · rw [added, List.filter_append, List.filter_cons_of_neg (by simp [Block.isAt, level])]
      simpa [Story.variants, addAction] using made.variants key
    · have known := made.action? key
      unfold Story.action? at known
      rw [added, Story.action?, addAction, List.lookup_append, known, List.find?_append,
        Option.map_or, Action.key_ofBlock]
      by_cases same : block.key = key
      · simp [Block.isAt, level, same]
      · have other : (key == block.key) = false := by simpa using Ne.symm same
        simp [Block.isAt, level, same, List.lookup_cons, other]

/-- The warnings about a heading whose block may still be taken. -/
def headingWarnings (block : Block) : List Warning :=
  if block.level = 2 then (readSceneHeading block).2.2 else (readActionHeading block).2

/-- A heading of this level gives no usable name, or one that is taken. -/
def Cause.refuses (level : Nat) : Cause → Bool
  | .sceneWithoutName => level = 2
  | .sceneAlreadyDefined _ _ => level = 2
  | .actionWithoutName => level = 3
  | .actionAlreadyDefined _ _ => level = 3
  | _ => false

/-- The warning refuses the block. -/
def Warning.refuses (warning : Warning) (block : Block) : Prop :=
  warning.line = block.line ∧ warning.column = 1 ∧ warning.cause.refuses block.level = true

/-- A block is taken, or it is refused with a warning, or it is no part of a story. -/
inductive IsJudged (story : Story) (earlier : List Block) (block : Block) : Story × List Warning → Prop
  | taken (part : block.isPart = true) (new : isNew earlier block = true) :
      IsJudged story earlier block
        (story.addEntry (.ofBlock block), headingWarnings block ++ (placeLinks block.lines).2)
  | refused {warning : Warning} (part : block.isPart = true) (known : isNew earlier block = false)
      (refuses : warning.refuses block) :
      IsJudged story earlier block (story, headingWarnings block ++ [warning])
  | passed (other : block.isPart = false) : IsJudged story earlier block (story, [])

theorem IsMadeOf.find?_variants (made : story.IsMadeOf earlier) (level : block.level = 2) :
    (story.variants block.key).find? (fun variant =>
        variant.conditions.agrees (Scene.ofBlock block).conditions) =
      (earlier.find? fun other => repeats other block).map Scene.ofBlock := by
  rw [made.variants, List.find?_map, List.find?_filter]
  congr 2
  funext other
  simp [repeats, level]

theorem find?_repeats (level : block.level = 3) :
    (earlier.find? fun other => repeats other block) = earlier.find? (Block.isAt 3 block.key) := by
  congr 1
  funext other
  simp [repeats, level]

theorem isNew_eq_find? (earlier : List Block) (block : Block) :
    isNew earlier block = (block.isPart && block.key ≠ [] &&
      (earlier.find? fun other => repeats other block).isNone) := by
  rw [isNew, Bool.eq_iff_iff]
  simp

theorem addSceneBlock_eq (story : Story) (block : Block) :
    addSceneBlock story block =
      if block.key = [] then
        (story, (readSceneHeading block).2.2 ++ [⟨block.line, 1, .sceneWithoutName⟩])
      else
        match (story.variants block.key).find? fun variant =>
            variant.conditions.agrees (Scene.ofBlock block).conditions with
        | some variant => (story, (readSceneHeading block).2.2 ++
            [⟨block.line, 1, .sceneAlreadyDefined (Scene.ofBlock block).name variant.line⟩])
        | none => (story.addScene (.ofBlock block),
            (readSceneHeading block).2.2 ++ (placeLinks block.lines).2) := by
  rw [Block.key, ← readSceneHeading_title]
  rfl

theorem addActionBlock_eq (story : Story) (block : Block) :
    addActionBlock story block =
      if block.key = [] then
        (story, (readActionHeading block).2 ++ [⟨block.line, 1, .actionWithoutName⟩])
      else
        match story.action? block.key with
        | some action => (story, (readActionHeading block).2 ++
            [⟨block.line, 1, .actionAlreadyDefined (Action.ofBlock block).name action.line⟩])
        | none => (story.addAction (.ofBlock block),
            (readActionHeading block).2 ++ (placeLinks block.lines).2) := by
  rw [Block.key, ← readActionHeading_title]
  rfl

theorem IsMadeOf.addSceneBlock (made : story.IsMadeOf earlier) (level : block.level = 2) :
    IsJudged story earlier block (addSceneBlock story block) := by
  have verdict := isNew_eq_find? earlier block
  have part : block.isPart = true := by simp [Block.isPart, level]
  have heading : headingWarnings block = (readSceneHeading block).2.2 := if_pos level
  rw [addSceneBlock_eq, ← heading, made.find?_variants level]
  by_cases unnamed : block.key = []
  · simp only [unnamed, if_true]
    exact .refused part (by simp [verdict, unnamed]) ⟨rfl, rfl, by simp [Cause.refuses, level]⟩
  · cases repeated : earlier.find? fun other => repeats other block with
    | some other =>
        simp only [unnamed, if_false, Option.map_some]
        exact .refused part (by simp [verdict, repeated]) ⟨rfl, rfl, by simp [Cause.refuses, level]⟩
    | none =>
        have new : isNew earlier block = true := by simp [verdict, repeated, part, unnamed]
        have taken : IsJudged story earlier block _ := .taken part new
        simpa [unnamed, Entry.ofBlock, level, Story.addEntry] using taken

theorem IsMadeOf.addActionBlock (made : story.IsMadeOf earlier) (level : block.level = 3) :
    IsJudged story earlier block (addActionBlock story block) := by
  have verdict := isNew_eq_find? earlier block
  have part : block.isPart = true := by simp [Block.isPart, level]
  have heading : headingWarnings block = (readActionHeading block).2 := if_neg (by omega)
  rw [addActionBlock_eq, ← heading, made.action?, ← find?_repeats level]
  by_cases unnamed : block.key = []
  · simp only [unnamed, if_true]
    exact .refused part (by simp [verdict, unnamed]) ⟨rfl, rfl, by simp [Cause.refuses, level]⟩
  · cases repeated : earlier.find? fun other => repeats other block with
    | some other =>
        simp only [unnamed, if_false, Option.map_some]
        exact .refused part (by simp [verdict, repeated]) ⟨rfl, rfl, by simp [Cause.refuses, level]⟩
    | none =>
        have new : isNew earlier block = true := by simp [verdict, repeated, part, unnamed]
        have taken : IsJudged story earlier block _ := .taken part new
        simpa [unnamed, Entry.ofBlock, level, Story.addEntry] using taken

/-- What one block can do to a story. -/
theorem IsMadeOf.addBlock (made : story.IsMadeOf earlier) (block : Block) :
    IsJudged story earlier block (addBlock story block) := by
  unfold Story.addBlock
  split
  · exact made.addSceneBlock ‹_›
  · exact made.addActionBlock ‹_›
  · rename_i notScene notAction
    have other : ¬block.level = 2 ∧ ¬block.level = 3 := ⟨notScene, notAction⟩
    exact .passed (by simp [Block.isPart, other])

theorem IsMadeOf.addBlocks (made : story.IsMadeOf earlier) (blocks : List Block) :
    (addBlocks story blocks).1.IsMadeOf (earlier ++ takenFrom earlier blocks) := by
  induction blocks generalizing story earlier with
  | nil => simpa [Story.addBlocks, takenFrom] using made
  | cons block blocks ih =>
      have judged := made.addBlock block
      simp only [Story.addBlocks, takenFrom]
      generalize Story.addBlock story block = result at judged ⊢
      cases judged with
      | taken part new => simpa [new] using ih (made.addEntry part)
      | refused _ known => simpa [known] using ih made
      | passed other =>
          have passed : isNew earlier block = false := by simp [isNew, other]
          simpa [passed] using ih made

/-- The blocks that are taken into a new story. -/
def takenBlocks (blocks : List Block) : List Block := takenFrom [] blocks

def refusedBlocks (blocks : List Block) : List Block := refusedFrom [] blocks

/-- A story holds what the blocks taken into it give, and nothing else. -/
theorem addBlocks_isMadeOf (name description firstScene : Text) (blocks : List Block) :
    (addBlocks ⟨name, description, firstScene, [], []⟩ blocks).1.IsMadeOf (takenBlocks blocks) :=
  (isMadeOf_nil name description firstScene).addBlocks blocks

theorem pairwise_blocksBehind (heading : Block) (text : Text) :
    (blocksBehind heading (Block.ofText text)).Pairwise fun left right => left.line < right.line :=
  (Block.pairwise_ofText text).sublist List.filter_sublist

end Story

end Gamebook
