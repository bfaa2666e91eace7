import Gamebook.Proofs.Story.Links

/-!
What a story without warnings has: every link leads to a scene that is there, and every scene has a
version for every reader.
-/

namespace Gamebook.Story

open Gamebook.Text Gamebook.Source

variable {story : Story} {checked : Checked} {key : Text}

/-- Nothing that a reader can follow leads out of the story. -/
structure IsClosed (story : Story) : Prop where
  first : story.hasScene story.firstScene = true
  targets : ∀ link ∈ story.allLinks, ∀ key, link.scene = some key → story.hasScene key = true
  plain : ∀ key, story.hasScene key = true →
    ∃ variant ∈ story.variants key, variant.conditions.isEmpty = true

theorem exists_plain_of_alwaysConditional {variants : List Scene} (nonempty : variants ≠ [])
    (silent : alwaysConditional variants = []) :
    ∃ variant ∈ variants, variant.conditions.isEmpty = true := by
  cases variants with
  | nil => contradiction
  | cons first rest =>
      simp only [alwaysConditional] at silent
      split at silent
      · contradiction
      · rename_i someEmpty
        obtain ⟨variant, member, notConditional⟩ :=
          List.all_eq_false.mp (Bool.eq_false_iff.mpr someEmpty)
        exact ⟨variant, member, by simpa using notConditional⟩

theorem hasScene_of_undefinedTarget {link : Link} (silent : undefinedTarget story link = [])
    (leads : link.scene = some key) : story.hasScene key = true := by
  simp only [undefinedTarget, leads] at silent
  split at silent
  · assumption
  · contradiction

theorem referenceWarnings_eq_nil : story.referenceWarnings = [] ↔
    ((∀ entry ∈ story.scenes, alwaysConditional entry.2 = []) ∧
      ∀ scene ∈ story.allScenes, neverSet story scene.line 1 scene.conditions = []) ∧
    ∀ link ∈ story.allLinks, undefinedTarget story link = [] ∧
      neverSet story link.line link.column link.conditions = [] := by
  simp only [referenceWarnings, List.append_eq_nil_iff, List.flatMap_eq_nil_iff, List.mem_mergeSort]

theorem isClosed_of_referenceWarnings (keyed : story.WellKeyed)
    (first : story.hasScene story.firstScene = true) (silent : story.referenceWarnings = []) :
    story.IsClosed := by
  obtain ⟨⟨versions, _⟩, targets⟩ := referenceWarnings_eq_nil.mp silent
  refine ⟨first, fun link member key leads => ?_, fun key defined => ?_⟩
  · exact hasScene_of_undefinedTarget (targets link member).1 leads
  · obtain ⟨variants, found⟩ := Option.isSome_iff_exists.mp defined
    have listed := mem_of_lookup found
    rw [Story.variants, found, Option.getD_some]
    exact exists_plain_of_alwaysConditional (keyed _ listed).1 (versions _ listed)

/-- A text that is read without a warning gives a closed story. -/
theorem isClosed_of_ofText {text : Text} (accepted : ofText text = .ok checked)
    (silent : checked.warnings = []) : checked.story.IsClosed := by
  obtain ⟨_, _, _, _, _, _, _, _, warnings⟩ := ofBlocks_eq_ok accepted
  rw [warnings, List.append_eq_nil_iff] at silent
  exact isClosed_of_referenceWarnings (wellKeyed_of_ofText accepted)
    (firstScene_of_ofText accepted).2 silent.2

theorem mem_addVariant_of_mem {scene other : Scene} {table : List (Text × List Scene)}
    (member : other ∈ table.flatMap Prod.snd ∨ other = scene) :
    other ∈ (addVariant scene table).flatMap Prod.snd := by
  induction table with
  | nil => simpa [addVariant] using member
  | cons entry table ih =>
      obtain ⟨key, variants⟩ := entry
      by_cases same : key = scene.key
      · simp only [addVariant, same, if_true, List.flatMap_cons, List.mem_append,
          List.mem_singleton] at member ⊢
        rcases member with (old | later) | new
        · exact .inl (.inl old)
        · exact .inr later
        · exact .inl (.inr new)
      · simp only [addVariant, same, if_false, List.flatMap_cons, List.mem_append] at member ⊢
        rcases member with (old | later) | new
        · exact .inl old
        · exact .inr (ih (.inl later))
        · exact .inr (ih (.inr new))

/-- A scene block and an action block each stand in the story. -/
def Takes (story : Story) (block : Block) : Prop :=
  (block.level = 2 → Scene.ofBlock block ∈ story.allScenes) ∧
    (block.level = 3 → Action.ofBlock block ∈ story.allActions)

theorem Takes.addBlocks {block : Block} (taken : story.Takes block) (blocks : List Block) :
    (addBlocks story blocks).1.Takes block :=
  addBlocks_induction (motive := fun next => next.Takes block) taken
    (fun _ taken _ _ _ => ⟨fun level => mem_addVariant_of_mem (.inl (taken.1 level)), taken.2⟩)
    (fun _ taken _ _ _ =>
      ⟨taken.1, fun level => mem_allActions_addAction.mpr (.inl (taken.2 level))⟩)

theorem takes_addBlock {block : Block} (silent : (addBlock story block).2 = []) :
    (addBlock story block).1.Takes block := by
  refine ⟨fun level => ?_, fun level => ?_⟩
  · simp only [addBlock, level] at silent ⊢
    rcases addSceneBlock_cases story block with ⟨_, added⟩ | ⟨_, warned⟩
    · rw [added]
      exact mem_addVariant_of_mem (.inr rfl)
    · exact absurd silent warned
  · simp only [addBlock, level] at silent ⊢
    rcases addActionBlock_cases story block with ⟨_, added⟩ | ⟨_, warned⟩
    · rw [added]
      exact mem_allActions_addAction.mpr (.inr rfl)
    · exact absurd silent warned

theorem takes_addBlocks {blocks : List Block} (silent : (addBlocks story blocks).2 = []) :
    ∀ block ∈ blocks, (addBlocks story blocks).1.Takes block := by
  induction blocks generalizing story with
  | nil => simp
  | cons first blocks ih =>
      obtain ⟨silentHere, silentBehind⟩ := List.append_eq_nil_iff.mp silent
      intro block member
      rcases List.mem_cons.mp member with rfl | later
      · exact (takes_addBlock silentHere).addBlocks blocks
      · exact ih silentBehind block later

/-- A text that is read without a warning loses none of the blocks behind its heading. -/
theorem takes_of_ofText {text : Text} {heading block : Block} (accepted : ofText text = .ok checked)
    (silent : checked.warnings = [])
    (headingIn : heading ∈ Block.ofText (text.dropWhile isByteOrderMark)) (first : heading.level = 1)
    (member : block ∈ Block.ofText (text.dropWhile isByteOrderMark))
    (behind : heading.line ≤ block.line) : checked.story.Takes block := by
  obtain ⟨_, _, _, found, _, read, _, _, warnings⟩ := ofBlocks_eq_ok accepted
  rw [warnings, List.append_eq_nil_iff] at silent
  obtain rfl : heading = _ := by
    rw [← List.mem_singleton, ← filter_of_storyBlock found]
    exact List.mem_filter.mpr ⟨headingIn, decide_eq_true first⟩
  rw [read]
  exact takes_addBlocks silent.1 block (List.mem_filter.mpr ⟨member, decide_eq_true behind⟩)

/-- Blocks that are added without a warning are a story with the warnings that its parts give of each
other. -/
theorem ofBlocks_of_added {blocks : List Block} {heading : Block}
    (found : storyBlock blocks = .ok heading)
    (read : readStoryHeading heading = .ok (story.name, story.firstScene))
    (added : addBlocks ⟨story.name, heading.body, story.firstScene, [], []⟩
      (blocksBehind heading blocks) = (story, []))
    (defined : story.hasScene story.firstScene = true) :
    ofBlocks blocks = .ok ⟨story, story.orphans, story.referenceWarnings⟩ := by
  unfold blocksBehind at added
  simp only [ofBlocks, found, read, added, bind, Except.bind]
  exact if_pos defined

theorem ofBlocks_of_silent {blocks : List Block} {heading : Block}
    (found : storyBlock blocks = .ok heading)
    (read : readStoryHeading heading = .ok (story.name, story.firstScene))
    (added : addBlocks ⟨story.name, heading.body, story.firstScene, [], []⟩
      (blocksBehind heading blocks) = (story, []))
    (defined : story.hasScene story.firstScene = true) (silent : story.referenceWarnings = []) :
    ofBlocks blocks = .ok ⟨story, story.orphans, []⟩ := by
  rw [ofBlocks_of_added found read added defined, silent]

/-- Two scenes that lead to each other, the second with a variant for readers with the key that the
way there gives. -/
def keySource : Text :=
  "# [Key](/hall)\n## Hall\n[Go](/den#key)\n## Den\n[Back](/hall)\n".toList
    ++ "## [Den](?key)\nLit. [Back](/hall)\n### Key\nYours.\n".toList

def plainLink (label target : String) (line column : Nat) (scene : String) (toggles : List Text) :
    Link where
  written := ⟨label, target⟩
  line := line
  column := column
  scene := some scene
  conditions := .empty
  toggles := toggles

def keyStory : Story where
  name := "Key"
  description := []
  firstScene := "hall"
  scenes := [
    ("hall", [⟨"hall", "Hall", "[Go](/den#key)", 2, .empty,
      [plainLink "Go" "/den#key" 3 1 "den" ["key"]]⟩]),
    ("den", [
      ⟨"den", "Den", "[Back](/hall)", 4, .empty, [plainLink "Back" "/hall" 5 1 "hall" []]⟩,
      ⟨"den", "Den", "Lit. [Back](/hall)", 6, Conditions.empty.put "key" true,
        [plainLink "Back" "/hall" 7 6 "hall" []]⟩])]
  actions := [("key", ⟨"key", "Key", "Yours.", 8, []⟩)]

theorem ofText_keySource : ofText keySource = .ok ⟨keyStory, [], []⟩ := by
  have cut : Block.ofText (keySource.dropWhile isByteOrderMark) = [
      ⟨⟨1, "[Key](/hall)"⟩, 1, []⟩,
      ⟨⟨2, "Hall"⟩, 2, [⟨3, "[Go](/den#key)"⟩]⟩,
      ⟨⟨2, "Den"⟩, 4, [⟨5, "[Back](/hall)"⟩]⟩,
      ⟨⟨2, "[Den](?key)"⟩, 6, [⟨7, "Lit. [Back](/hall)"⟩]⟩,
      ⟨⟨3, "Key"⟩, 8, [⟨9, "Yours."⟩]⟩] := by decide +kernel
  have reached : keyStory.orphans = [] := by
    simp [orphans, unreachedFrom, keyStory, stops, allScenes, allActions, stopsAt, stopsElsewhere,
      plainLink, Link.leadsTo]
  have silent : keyStory.referenceWarnings = [] := referenceWarnings_eq_nil.mpr (by decide +kernel)
  rw [ofText, cut, ofBlocks_of_silent rfl (by decide +kernel) (by decide +kernel) rfl silent, reached]

end Gamebook.Story
