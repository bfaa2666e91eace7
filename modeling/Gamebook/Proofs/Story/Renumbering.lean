import Gamebook.Proofs.Story.Taking

/-!
Lines with other numbers. A story is read from blocks whose lines are numbered anew as before, with
the new numbers in the place of the old ones; only the order of the numbers counts.
-/

namespace Gamebook

open Gamebook.Text Gamebook.Source

variable (f : Nat → Nat)

namespace Source

def NumberedLine.renumber (line : NumberedLine) : NumberedLine := { line with number := f line.number }

def Block.renumber (block : Block) : Block :=
  { block with line := f block.line, lines := block.lines.map (NumberedLine.renumber f) }

@[simp] theorem Block.level_renumber (block : Block) : (block.renumber f).level = block.level := rfl

@[simp] theorem Block.body_renumber (block : Block) : (block.renumber f).body = block.body := by
  simp [body, renumber, NumberedLine.renumber, Function.comp_def]

theorem Block.numberFrom_renumber (first count : Nat) (texts : List Text) :
    numberFrom (first + count) texts =
      (numberFrom first texts).map (NumberedLine.renumber (· + count)) := by
  induction texts generalizing first with
  | nil => rfl
  | cons text texts ih =>
      rw [numberFrom, numberFrom, List.map_cons, ← ih, Nat.add_right_comm]
      rfl

theorem Block.gather_renumber (lines : List NumberedLine) :
    gather (lines.map (NumberedLine.renumber f)) =
      ((gather lines).1.map (NumberedLine.renumber f), (gather lines).2.map (Block.renumber f)) := by
  induction lines with
  | nil => rfl
  | cons line rest ih =>
      rw [List.map_cons, gather_cons, gather_cons, ih]
      simp only [NumberedLine.renumber]
      split <;> rfl

end Source

namespace Story

def Link.renumber (link : Link) : Link := { link with line := f link.line }

def Scene.renumber (scene : Scene) : Scene :=
  { scene with line := f scene.line, links := scene.links.map (Link.renumber f) }

def Action.renumber (action : Action) : Action :=
  { action with line := f action.line, links := action.links.map (Link.renumber f) }

def renumber (story : Story) : Story :=
  { story with
    scenes := story.scenes.map (Prod.map id (List.map (Scene.renumber f)))
    actions := story.actions.map (Prod.map id (Action.renumber f)) }

/-- Two of the causes name the line of an earlier heading. -/
def Cause.renumber : Cause → Cause
  | .sceneAlreadyDefined name line => .sceneAlreadyDefined name (f line)
  | .actionAlreadyDefined name line => .actionAlreadyDefined name (f line)
  | cause => cause

def Warning.renumber (warning : Warning) : Warning :=
  ⟨f warning.line, warning.column, warning.cause.renumber f⟩

def Orphan.renumber (orphan : Orphan) : Orphan := { orphan with line := f orphan.line }

def Fault.renumber : Fault → Fault
  | .noStoryBlock => .noStoryBlock
  | .secondStoryBlock line => .secondStoryBlock (f line)
  | .headingIsNoLink line => .headingIsNoLink (f line)
  | .headingLeadsNowhere line => .headingLeadsNowhere (f line)
  | .undefinedFirstScene key line => .undefinedFirstScene key (f line)

def Checked.renumber (checked : Checked) : Checked :=
  ⟨checked.story.renumber f, checked.orphans.map (Orphan.renumber f),
    checked.warnings.map (Warning.renumber f)⟩

/-- What a text is read as, with other numbers wherever a line is named. -/
def renumberResult : Except Fault Checked → Except Fault Checked
  | .ok checked => .ok (checked.renumber f)
  | .error fault => .error (fault.renumber f)

/-- A story under way with its warnings. -/
def renumberBoth (result : Story × List Warning) : Story × List Warning :=
  (result.1.renumber f, result.2.map (Warning.renumber f))

variable {f} {story : Story} {key : Text}

theorem placeLink_renumber (line column : Nat) (written : WrittenLink) :
    placeLink (f line) column written =
      ((placeLink line column written).1.map (Link.renumber f),
        (placeLink line column written).2.map (Warning.renumber f)) := by
  cases read : Destination.read? (strip written.target) with
  | none => simp [placeLink, read, Warning.renumber, Cause.renumber]
  | some destination =>
      simp only [placeLink, read, List.map_append, Option.map_some, Prod.mk.injEq]
      refine ⟨rfl, ?_⟩
      split <;> split <;> rfl

theorem placeLinks_renumber (lines : List NumberedLine) :
    placeLinks (lines.map (NumberedLine.renumber f)) =
      ((placeLinks lines).1.map (Link.renumber f), (placeLinks lines).2.map (Warning.renumber f)) := by
  simp only [placeLinks, NumberedLine.renumber, placeLink_renumber, List.flatMap_map,
    List.filterMap_flatMap, List.flatMap_assoc, List.filterMap_map, List.map_flatMap,
    List.map_filterMap, Function.comp_def]

theorem readSceneHeading_renumber (block : Block) : readSceneHeading (block.renumber f) =
    ((readSceneHeading block).1, (readSceneHeading block).2.1,
      (readSceneHeading block).2.2.map (Warning.renumber f)) := by
  unfold readSceneHeading
  cases link : WrittenLink.ofWhole? (strip block.heading.text) with
  | none => simp [Block.renumber, link]
  | some written =>
      cases read : Destination.read? (strip written.target) with
      | none => simp [Block.renumber, link, read, Warning.renumber, Cause.renumber]
      | some destination =>
          simp only [Block.renumber, link, read]
          split <;> simp [Warning.renumber, Cause.renumber]

theorem readActionHeading_renumber (block : Block) : readActionHeading (block.renumber f) =
    ((readActionHeading block).1, (readActionHeading block).2.map (Warning.renumber f)) := by
  unfold readActionHeading
  cases link : WrittenLink.ofWhole? (strip block.heading.text) with
  | none => simp [Block.renumber, link]
  | some written => simp [Block.renumber, link, Warning.renumber, Cause.renumber]

theorem lookup_map {α β : Type} (change : α → β) (key : Text) (table : List (Text × α)) :
    (table.map (Prod.map id change)).lookup key = (table.lookup key).map change := by
  induction table with
  | nil => rfl
  | cons entry table ih =>
      obtain ⟨name, value⟩ := entry
      rw [List.map_cons, Prod.map_apply, id, lookup_cons_eq, lookup_cons_eq, ih]
      split <;> rfl

theorem variants_renumber (story : Story) (key : Text) :
    (story.renumber f).variants key = (story.variants key).map (Scene.renumber f) := by
  unfold variants renumber
  rw [lookup_map]
  cases story.scenes.lookup key <;> rfl

@[simp] theorem hasScene_renumber (story : Story) (key : Text) :
    (story.renumber f).hasScene key = story.hasScene key := by
  unfold hasScene renumber
  rw [lookup_map, Option.isSome_map]

theorem action?_renumber (story : Story) (key : Text) :
    (story.renumber f).action? key = (story.action? key).map (Action.renumber f) :=
  lookup_map (Action.renumber f) key story.actions

theorem addVariant_renumber (scene : Scene) (table : List (Text × List Scene)) :
    addVariant (scene.renumber f) (table.map (Prod.map id (List.map (Scene.renumber f)))) =
      (addVariant scene table).map (Prod.map id (List.map (Scene.renumber f))) := by
  induction table with
  | nil => rfl
  | cons entry table ih =>
      obtain ⟨key, variants⟩ := entry
      by_cases same : key = scene.key
      · simp [addVariant, Scene.renumber, same]
      · simpa [addVariant, Scene.renumber, same] using ih

theorem addScene_renumber (story : Story) (scene : Scene) :
    (story.renumber f).addScene (scene.renumber f) = (story.addScene scene).renumber f := by
  simp [addScene, renumber, addVariant_renumber]

theorem addAction_renumber (story : Story) (action : Action) :
    (story.renumber f).addAction (action.renumber f) = (story.addAction action).renumber f := by
  simp [addAction, renumber, Action.renumber]

theorem Scene.ofBlock_renumber (block : Block) :
    Scene.ofBlock (block.renumber f) = (Scene.ofBlock block).renumber f := by
  unfold Scene.ofBlock
  rw [readSceneHeading_renumber, Block.body_renumber, Block.renumber, placeLinks_renumber]
  rfl

theorem Action.ofBlock_renumber (block : Block) :
    Action.ofBlock (block.renumber f) = (Action.ofBlock block).renumber f := by
  unfold Action.ofBlock
  rw [readActionHeading_renumber, Block.body_renumber, Block.renumber, placeLinks_renumber]
  rfl

theorem find?_variants_renumber (story : Story) (key : Text) (conditions : Conditions) :
    ((story.renumber f).variants key).find? (fun variant => variant.conditions.agrees conditions) =
      ((story.variants key).find? fun variant => variant.conditions.agrees conditions).map
        (Scene.renumber f) := by
  rw [variants_renumber, List.find?_map]
  rfl

theorem addSceneBlock_renumber (story : Story) (block : Block) :
    addSceneBlock (story.renumber f) (block.renumber f) = renumberBoth f (addSceneBlock story block) := by
  have key : (block.renumber f).key = block.key := rfl
  have lines : (block.renumber f).lines = block.lines.map (NumberedLine.renumber f) := rfl
  have conditions : (Scene.ofBlock (block.renumber f)).conditions = (Scene.ofBlock block).conditions := by
    rw [Scene.ofBlock_renumber]
    rfl
  rw [addSceneBlock_eq, addSceneBlock_eq, key, lines, conditions, readSceneHeading_renumber,
    placeLinks_renumber, find?_variants_renumber, Scene.ofBlock_renumber, addScene_renumber]
  split
  · simp [renumberBoth, Warning.renumber, Cause.renumber, Block.renumber]
  · cases (story.variants block.key).find? fun variant =>
        variant.conditions.agrees (Scene.ofBlock block).conditions with
    | none => simp [renumberBoth]
    | some variant =>
        simp [renumberBoth, Warning.renumber, Cause.renumber, Block.renumber, Scene.renumber]

theorem addActionBlock_renumber (story : Story) (block : Block) :
    addActionBlock (story.renumber f) (block.renumber f) = renumberBoth f (addActionBlock story block) := by
  have key : (block.renumber f).key = block.key := rfl
  have lines : (block.renumber f).lines = block.lines.map (NumberedLine.renumber f) := rfl
  rw [addActionBlock_eq, addActionBlock_eq, key, lines, readActionHeading_renumber,
    placeLinks_renumber, action?_renumber, Action.ofBlock_renumber, addAction_renumber]
  split
  · simp [renumberBoth, Warning.renumber, Cause.renumber, Block.renumber]
  · cases story.action? block.key with
    | none => simp [renumberBoth]
    | some action =>
        simp [renumberBoth, Warning.renumber, Cause.renumber, Block.renumber, Action.renumber]

theorem addBlock_renumber (story : Story) (block : Block) :
    addBlock (story.renumber f) (block.renumber f) = renumberBoth f (addBlock story block) := by
  unfold addBlock
  rw [Block.level_renumber]
  split
  · exact addSceneBlock_renumber story block
  · exact addActionBlock_renumber story block
  · rfl

theorem addBlocks_renumber (story : Story) (blocks : List Block) :
    addBlocks (story.renumber f) (blocks.map (Block.renumber f)) =
      renumberBoth f (addBlocks story blocks) := by
  induction blocks generalizing story with
  | nil => rfl
  | cons block blocks ih =>
      have next := ih (addBlock story block).1
      simp only [List.map_cons, addBlocks, addBlock_renumber]
      simp only [renumberBoth] at next ⊢
      rw [next, List.map_append]

section References

theorem scenes_renumber (story : Story) :
    (story.renumber f).scenes = story.scenes.map (Prod.map id (List.map (Scene.renumber f))) := rfl

theorem allScenes_renumber (story : Story) :
    (story.renumber f).allScenes = story.allScenes.map (Scene.renumber f) := by
  simp [allScenes, scenes_renumber, List.flatMap_map, List.map_flatMap]

theorem allActions_renumber (story : Story) :
    (story.renumber f).allActions = story.allActions.map (Action.renumber f) := by
  simp [allActions, renumber]

theorem allLinks_renumber (story : Story) :
    (story.renumber f).allLinks = story.allLinks.map (Link.renumber f) := by
  simp [allLinks, allScenes_renumber, allActions_renumber, List.flatMap_map, List.map_flatMap,
    Scene.renumber, Action.renumber]

@[simp] theorem isSetBySomeLink_renumber (story : Story) (toggle : Text) :
    (story.renumber f).isSetBySomeLink toggle = story.isSetBySomeLink toggle := by
  rw [isSetBySomeLink, allLinks_renumber, List.any_map]
  rfl

theorem alwaysConditional_renumber (variants : List Scene) :
    alwaysConditional (variants.map (Scene.renumber f)) =
      (alwaysConditional variants).map (Warning.renumber f) := by
  have conditional : (variants.map (Scene.renumber f)).all (fun variant => !variant.conditions.isEmpty) =
      variants.all fun variant => !variant.conditions.isEmpty := List.all_map
  cases variants with
  | nil => rfl
  | cons first rest =>
      rw [List.map_cons] at conditional
      rw [List.map_cons, alwaysConditional, alwaysConditional, conditional]
      split <;> rfl

theorem neverSet_renumber (story : Story) (line column : Nat) (conditions : Conditions) :
    neverSet (story.renumber f) (f line) column conditions =
      (neverSet story line column conditions).map (Warning.renumber f) := by
  simp [neverSet, Warning.renumber, Cause.renumber, Function.comp_def]

theorem undefinedTarget_renumber (story : Story) (link : Link) :
    undefinedTarget (story.renumber f) (link.renumber f) =
      (undefinedTarget story link).map (Warning.renumber f) := by
  simp only [undefinedTarget, Link.renumber, hasScene_renumber]
  split
  · rfl
  · split <;> rfl

/-- The order of the lines is that of their old numbers. -/
theorem mergeSort_line_renumber {α : Type} (increasing : StrictMono f) (line : α → Nat) (change : α → α)
    (moved : ∀ item, line (change item) = f (line item)) (items : List α) :
    (items.map change).mergeSort (fun left right => line left ≤ line right) =
      (items.mergeSort fun left right => line left ≤ line right).map change := by
  refine (List.map_mergeSort fun left _ right _ => ?_).symm
  simp [moved, increasing.le_iff_le]

theorem linkBefore_renumber (increasing : StrictMono f) (left right : Link) :
    linkBefore (left.renumber f) (right.renumber f) = linkBefore left right := by
  rw [Bool.eq_iff_iff]
  simp only [linkBefore, Bool.or_eq_true, Bool.and_eq_true, decide_eq_true_eq]
  simp [Link.renumber, increasing.lt_iff_lt, increasing.injective.eq_iff]

theorem referenceWarnings_renumber (increasing : StrictMono f) (story : Story) :
    (story.renumber f).referenceWarnings = story.referenceWarnings.map (Warning.renumber f) := by
  have scenes := mergeSort_line_renumber increasing Scene.line (Scene.renumber f) (fun _ => rfl)
    story.allScenes
  have links : (story.allLinks.map (Link.renumber f)).mergeSort linkBefore =
      (story.allLinks.mergeSort linkBefore).map (Link.renumber f) :=
    (List.map_mergeSort fun left _ right _ => (linkBefore_renumber increasing left right).symm).symm
  have ofScene : ∀ scene : Scene,
      neverSet (story.renumber f) (scene.renumber f).line 1 (scene.renumber f).conditions =
        (neverSet story scene.line 1 scene.conditions).map (Warning.renumber f) :=
    fun scene => neverSet_renumber story scene.line 1 scene.conditions
  have ofLink : ∀ link : Link,
      neverSet (story.renumber f) (link.renumber f).line (link.renumber f).column
          (link.renumber f).conditions =
        (neverSet story link.line link.column link.conditions).map (Warning.renumber f) :=
    fun link => neverSet_renumber story link.line link.column link.conditions
  unfold referenceWarnings
  rw [allScenes_renumber, allLinks_renumber, scenes, links]
  simp [List.flatMap_map, List.map_flatMap, scenes_renumber, alwaysConditional_renumber, ofScene,
    ofLink, undefinedTarget_renumber]

end References

section Orphans

def Stop.renumber (f : Nat → Nat) (stop : Stop) : Stop := { stop with line := f stop.line }

@[simp] theorem Link.leadsTo_renumber (link : Link) : (link.renumber f).leadsTo = link.leadsTo := rfl

theorem stops_renumber (story : Story) :
    (story.renumber f).stops = story.stops.map (Stop.renumber f) := by
  simp [stops, allScenes_renumber, allActions_renumber, Stop.renumber, Scene.renumber, Action.renumber,
    Function.comp_def, List.flatMap_map]

theorem stopsAt_renumber (place : Place) (stops : List Stop) :
    stopsAt place (stops.map (Stop.renumber f)) = (stopsAt place stops).map (Stop.renumber f) :=
  List.filter_map

theorem stopsElsewhere_renumber (place : Place) (stops : List Stop) :
    stopsElsewhere place (stops.map (Stop.renumber f)) =
      (stopsElsewhere place stops).map (Stop.renumber f) :=
  List.filter_map

/-- The search for what is reached does not look at lines. -/
theorem unreachedFrom_renumber (places : List Place) (unreached : List Stop) :
    unreachedFrom places (unreached.map (Stop.renumber f)) =
      (unreachedFrom places unreached).map (Stop.renumber f) := by
  fun_induction unreachedFrom places unreached with
  | case1 unreached => rw [unreachedFrom]
  | case2 unreached place rest none ih =>
      rw [unreachedFrom, stopsAt_renumber, none, ← ih]
      rfl
  | case3 unreached place rest found ih =>
      rw [unreachedFrom, stopsAt_renumber, if_neg (by simpa using found), stopsElsewhere_renumber,
        ← ih, List.flatMap_map]
      rfl

theorem orphans_renumber (increasing : StrictMono f) (story : Story) :
    (story.renumber f).orphans = story.orphans.map (Orphan.renumber f) := by
  have sorted := mergeSort_line_renumber increasing Orphan.line (Orphan.renumber f) (fun _ => rfl)
  unfold orphans
  rw [stops_renumber, unreachedFrom_renumber, List.map_map, ← sorted, List.map_map]
  rfl

end Orphans

theorem storyBlock_renumber (blocks : List Block) : storyBlock (blocks.map (Block.renumber f)) =
    match storyBlock blocks with
    | .ok block => .ok (block.renumber f)
    | .error fault => .error (fault.renumber f) := by
  have kept : (blocks.map (Block.renumber f)).filter (fun block => block.level = 1) =
      (blocks.filter fun block => block.level = 1).map (Block.renumber f) := List.filter_map
  unfold storyBlock
  rw [kept]
  cases blocks.filter fun block => block.level = 1 with
  | nil => rfl
  | cons first rest => cases rest <;> rfl

theorem readStoryHeading_renumber (block : Block) : readStoryHeading (block.renumber f) =
    match readStoryHeading block with
    | .ok read => .ok read
    | .error fault => .error (fault.renumber f) := by
  unfold readStoryHeading
  cases link : WrittenLink.ofWhole? (strip block.heading.text) with
  | none => simp [Block.renumber, link, Fault.renumber]
  | some written =>
      cases read : Destination.read? (strip written.target) with
      | none => simp [Block.renumber, link, read, Fault.renumber]
      | some destination =>
          obtain ⟨scene, conditions, toggles⟩ := destination
          cases scene <;> simp [Block.renumber, link, read, Fault.renumber]

theorem blocksBehind_renumber (increasing : StrictMono f) (heading : Block) (blocks : List Block) :
    blocksBehind (heading.renumber f) (blocks.map (Block.renumber f)) =
      (blocksBehind heading blocks).map (Block.renumber f) := by
  unfold blocksBehind
  rw [List.filter_map]
  congr 2
  funext block
  simp [Block.renumber, increasing.le_iff_le]

theorem ofBlocks_renumber (increasing : StrictMono f) (blocks : List Block) :
    ofBlocks (blocks.map (Block.renumber f)) = renumberResult f (ofBlocks blocks) := by
  have behind := blocksBehind_renumber increasing
  unfold blocksBehind at behind
  unfold ofBlocks
  rw [storyBlock_renumber]
  cases storyBlock blocks with
  | error fault => rfl
  | ok heading =>
      simp only [bind, Except.bind, readStoryHeading_renumber]
      cases readStoryHeading heading with
      | error fault => rfl
      | ok read =>
          obtain ⟨name, firstScene⟩ := read
          simp only [behind, Block.body_renumber]
          generalize blocks.filter (fun other => heading.line ≤ other.line) = others
          have added : addBlocks ⟨name, heading.body, firstScene, [], []⟩ (others.map (Block.renumber f)) =
              renumberBoth f (addBlocks ⟨name, heading.body, firstScene, [], []⟩ others) :=
            addBlocks_renumber ⟨name, heading.body, firstScene, [], []⟩ others
          rw [added]
          generalize addBlocks _ others = result
          simp only [renumberBoth, hasScene_renumber, orphans_renumber increasing,
            referenceWarnings_renumber increasing, ← List.map_append]
          split <;> rfl

end Story

end Gamebook
