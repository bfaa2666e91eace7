import Gamebook.Proofs.Source.Blocks
import Gamebook.Proofs.Source.Columns
import Gamebook.Proofs.Source.Spelling
import Gamebook.Proofs.Story.Closed
import Gamebook.Proofs.Story.Distinct
import Gamebook.Proofs.Story.Taking

/-!
The shape of a story that was read from a text: how its keys and names are spelt, what its tables hold
under a key, and that each of its parts stands on a line of its own.
-/

namespace Gamebook.Story

open Gamebook.Text Gamebook.Source

variable {story : Story} {checked : Checked} {blocks : List Block} {block : Block} {key text : Text}
  {variants : List Scene} {scene : Scene} {action : Action} {link : Link}

/-- The variants that stand under a key: each asks for other toggles, in whatever order. -/
structure IsVariants (key : Text) (variants : List Scene) : Prop where
  nonempty : variants ≠ []
  keyed : ∀ scene ∈ variants, scene.key = key
  increasing : variants.Pairwise fun left right => left.line < right.line
  apart : variants.Pairwise fun left right =>
    ¬left.conditions.entries.Perm right.conditions.entries

structure Link.IsSpelt (link : Link) : Prop where
  scene : ∀ key, link.scene = some key → Destination.IsTarget key
  conditions : ∀ name ∈ link.conditions.names, Destination.IsLowName name
  toggles : ∀ name ∈ link.toggles, Destination.IsLowName name

structure IsWellFormed (story : Story) : Prop where
  sceneKeys : (story.scenes.map Prod.fst).Nodup
  actionKeys : (story.actions.map Prod.fst).Nodup
  scenes : ∀ entry ∈ story.scenes, Key.IsKey entry.1 ∧ IsVariants entry.1 entry.2
  actions : ∀ entry ∈ story.actions, Key.IsKey entry.1 ∧ entry.2.key = entry.1
  lines : (story.entries.map Entry.line).Nodup
  conditions : ∀ scene ∈ story.allScenes, ∀ name ∈ scene.conditions.names,
    Destination.IsLowName name
  links : ∀ link ∈ story.allLinks, link.IsSpelt
  first : story.hasScene story.firstScene = true

theorem Conditions.agrees_of_perm {left right : Conditions} (same : left.entries.Perm right.entries) :
    left.agrees right = true := by
  have held : ∀ entry ∈ left.entries, entry ∈ right.entries := fun entry member =>
    same.subset member
  simpa [Conditions.agrees, Conditions.size, same.length_eq] using held

theorem unbroken_strip {text : Text} (unbroken : '\n' ∉ text) : '\n' ∉ strip text :=
  fun inside => unbroken ((trim_sublist isBlank text).subset inside)

theorem isSpelt_of_placeLinks {source : Text} (member : block ∈ Block.ofText source)
    (listed : link ∈ (placeLinks block.lines).1) : link.IsSpelt := by
  obtain ⟨line, inside, column, written, found, placed⟩ := mem_placeLinks listed
  obtain ⟨destination, read, rfl⟩ := placeLink_eq_some placed
  have unbroken : '\n' ∉ written.target := by
    intro inTarget
    have within := (written.target_sublist.trans (WrittenLink.write_sublist found)).subset inTarget
    exact absurd (Block.isBreak_of_mem_line member inside within).2 (by decide)
  have spelt := Destination.isSpelt_of_read? read (unbroken_strip unbroken)
  exact ⟨spelt.scene, spelt.conditions, spelt.toggles⟩

theorem isLowName_of_readSceneHeading {source name : Text} (member : block ∈ Block.ofText source)
    (asked : name ∈ (readSceneHeading block).2.1.names) : Destination.IsLowName name := by
  unfold readSceneHeading at asked
  cases whole : WrittenLink.ofWhole? (strip block.heading.text) with
  | none => simp [whole, Conditions.names, Conditions.empty] at asked
  | some written =>
      cases read : Destination.read? (strip written.target) with
      | none => simp [whole, read, Conditions.names, Conditions.empty] at asked
      | some destination =>
          simp only [whole, read] at asked
          have link : written.write.Sublist block.heading.text := by
            rw [← WrittenLink.eq_write_of_ofWhole? whole]
            exact trim_sublist isBlank block.heading.text
          have unbroken : '\n' ∉ written.target := fun inTarget =>
            absurd (Block.isBreak_of_mem_heading member
              ((written.target_sublist.trans link).subset inTarget)) (by decide)
          exact (Destination.isSpelt_of_read? read (unbroken_strip unbroken)).conditions name asked

namespace IsMadeOf

/-- What is taken has a name. -/
theorem isKey (made : story.IsMadeOf (takenBlocks blocks)) {entry : Entry}
    (member : entry ∈ story.entries) : Key.IsKey entry.key := by
  obtain ⟨block, taken, rfl⟩ := List.mem_map.mp (made.entries.subset member)
  rw [Entry.key_ofBlock]
  exact Key.isKey_ofName (isNew_of_mem_takenFrom taken).2

/-- The lines of a story's parts are those of their blocks. -/
theorem nodup_lines (made : story.IsMadeOf (takenBlocks blocks))
    (increasing : blocks.Pairwise fun left right => left.line < right.line) :
    (story.entries.map Entry.line).Nodup := by
  apply ((made.entries.map Entry.line).nodup_iff).mpr
  have lines : Entry.line ∘ Entry.ofBlock = Block.line := funext Entry.line_ofBlock
  rw [List.map_map, lines]
  exact Block.nodup_line (increasing.sublist (takenFrom_sublist [] blocks))

theorem increasing_variants (made : story.IsMadeOf (takenBlocks blocks))
    (increasing : blocks.Pairwise fun left right => left.line < right.line) (key : Text) :
    (story.variants key).Pairwise fun left right => left.line < right.line := by
  rw [made.variants, List.pairwise_map]
  exact increasing.sublist (List.filter_sublist.trans (takenFrom_sublist [] blocks))

end IsMadeOf

theorem isMadeOf_of_ofText (accepted : ofText text = .ok checked) :
    ∃ heading, checked.story.IsMadeOf
      (takenBlocks (blocksBehind heading (Block.ofText (text.dropWhile isByteOrderMark)))) := by
  obtain ⟨heading, name, firstScene, _, _, read, _⟩ := ofBlocks_eq_ok accepted
  rw [read]
  exact ⟨heading, addBlocks_isMadeOf name heading.body firstScene _⟩

theorem increasing_of_ofText (accepted : ofText text = .ok checked) (key : Text) :
    (checked.story.variants key).Pairwise fun left right => left.line < right.line := by
  obtain ⟨heading, made⟩ := isMadeOf_of_ofText accepted
  exact made.increasing_variants (pairwise_blocksBehind heading _) key

theorem isVariants_of_ofText (accepted : ofText text = .ok checked)
    (member : (key, variants) ∈ checked.story.scenes) : IsVariants key variants := by
  have distinct := isDistinct_of_ofText accepted
  obtain ⟨nonempty, keyed⟩ := wellKeyed_of_ofText accepted _ member
  have increasing := increasing_of_ofText accepted key
  rw [variants_of_mem_scenes distinct member] at increasing
  refine ⟨nonempty, keyed, increasing, (distinct.variants _ member).imp fun apart alike => ?_⟩
  rw [Conditions.agrees_of_perm alike] at apart
  contradiction

theorem isSpelt_of_ofText (accepted : ofText text = .ok checked)
    (member : link ∈ checked.story.allLinks) : link.IsSpelt := by
  obtain ⟨block, inText, listed⟩ := (isBuiltFrom_of_ofText accepted).exists_of_mem_allLinks member
  exact isSpelt_of_placeLinks inText listed

/-- Every story that is read from a text is well-formed. -/
theorem isWellFormed_of_ofText (accepted : ofText text = .ok checked) :
    checked.story.IsWellFormed := by
  obtain ⟨heading, made⟩ := isMadeOf_of_ofText accepted
  have distinct := isDistinct_of_ofText accepted
  refine ⟨distinct.sceneKeys, distinct.actionKeys, fun entry member => ?_, fun entry member => ?_,
    made.nodup_lines (pairwise_blocksBehind heading _), fun scene member name asked => ?_,
    fun link => isSpelt_of_ofText accepted, (firstScene_of_ofText accepted).2⟩
  · have variants := isVariants_of_ofText accepted member
    obtain ⟨scene, inVariants⟩ := List.exists_mem_of_ne_nil _ variants.nonempty
    have inStory : scene ∈ checked.story.allScenes := List.mem_flatMap.mpr ⟨_, member, inVariants⟩
    have key : Key.IsKey scene.key :=
      made.isKey (List.mem_append_left _ (List.mem_map_of_mem inStory))
    exact ⟨variants.keyed scene inVariants ▸ key, variants⟩
  · have inStory : entry.2 ∈ checked.story.allActions := List.mem_map_of_mem member
    have key : Key.IsKey entry.2.key :=
      made.isKey (List.mem_append_right _ (List.mem_map_of_mem inStory))
    have same := distinct.actions entry member
    exact ⟨same ▸ key, same⟩
  · obtain ⟨block, listed, rfl⟩ := (isBuiltFrom_of_ofText accepted).scenes scene member
    exact isLowName_of_readSceneHeading listed asked

theorem isWellFormed_keyStory : ofText keySource = .ok ⟨keyStory, [], []⟩ ∧ keyStory.IsWellFormed :=
  ⟨ofText_keySource, isWellFormed_of_ofText ofText_keySource⟩

end Gamebook.Story
