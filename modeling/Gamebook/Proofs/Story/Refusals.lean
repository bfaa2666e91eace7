import Gamebook.Proofs.Story.Taking

/-!
Why a text is no story: the faults a text can have, each said of its headings and its blocks, and that
a text is refused for the first of them.
-/

namespace Gamebook.Story

open Gamebook.Text Gamebook.Source

variable {text key : Text} {fault : Fault} {line : Nat} {heading : Heading} {written : WrittenLink}

/-- The blocks of a text from this line on. -/
def blocksFrom (line : Nat) (text : Text) : List Block :=
  (Block.ofText (text.dropWhile isByteOrderMark)).filter fun block => line ≤ block.line

/-- The text has this fault and none of those that stand before it here. -/
inductive IsRefused (text : Text) : Fault → Prop
  | noStory (none : storyHeadings (sourceLines text) = []) : IsRefused text .noStoryBlock
  | second {first second : Nat × Heading} {rest : List (Nat × Heading)}
      (more : storyHeadings (sourceLines text) = first :: second :: rest) :
      IsRefused text (.secondStoryBlock second.1)
  | noLink {line : Nat} {heading : Heading}
      (only : storyHeadings (sourceLines text) = [(line, heading)])
      (plain : WrittenLink.ofWhole? (strip heading.text) = none) :
      IsRefused text (.headingIsNoLink line)
  | nowhere {line : Nat} {heading : Heading} {written : WrittenLink}
      (only : storyHeadings (sourceLines text) = [(line, heading)])
      (link : WrittenLink.ofWhole? (strip heading.text) = some written)
      (aimless : ∀ destination, Destination.read? (strip written.target) = some destination →
        destination.scene = none) :
      IsRefused text (.headingLeadsNowhere line)
  | undefined {line : Nat} {heading : Heading} {written : WrittenLink} {destination : Destination}
      {key : Text} (only : storyHeadings (sourceLines text) = [(line, heading)])
      (link : WrittenLink.ofWhole? (strip heading.text) = some written)
      (read : Destination.read? (strip written.target) = some destination)
      (leads : destination.scene = some key)
      (absent : ∀ block ∈ takenBlocks (blocksFrom line text), block.level = 2 → block.key ≠ key) :
      IsRefused text (.undefinedFirstScene key line)

theorem exists_block_of_storyHeadings (only : storyHeadings (sourceLines text) = [(line, heading)]) :
    ∃ block, storyBlock (Block.ofText (text.dropWhile isByteOrderMark)) = .ok block ∧
      block.line = line ∧ block.heading = heading := by
  rw [storyHeadings_sourceLines] at only
  obtain ⟨block, found, same⟩ := List.map_eq_singleton_iff.mp only
  refine ⟨block, ?_, congrArg Prod.fst same, congrArg Prod.snd same⟩
  rw [storyBlock, found]

theorem hasScene_addBlocks (name description firstScene : Text) (blocks : List Block) (key : Text) :
    (addBlocks ⟨name, description, firstScene, [], []⟩ blocks).1.hasScene key = true ↔
      ∃ block ∈ takenBlocks blocks, block.level = 2 ∧ block.key = key := by
  rw [(addBlocks_wellKeyed name description firstScene blocks).hasScene,
    (addBlocks_isMadeOf name description firstScene blocks).variants]
  simp [Block.isAt]

/-- What a text comes to whose only heading is a link to a scene. -/
theorem ofText_of_leads {destination : Destination}
    (only : storyHeadings (sourceLines text) = [(line, heading)])
    (link : WrittenLink.ofWhole? (strip heading.text) = some written)
    (read : Destination.read? (strip written.target) = some destination)
    (leads : destination.scene = some key) :
    (∃ block ∈ takenBlocks (blocksFrom line text), block.level = 2 ∧ block.key = key) ∧
        (∃ checked, ofText text = .ok checked) ∨
      (∀ block ∈ takenBlocks (blocksFrom line text), block.level = 2 → block.key ≠ key) ∧
        ofText text = .error (.undefinedFirstScene key line) := by
  obtain ⟨block, found, rfl, rfl⟩ := exists_block_of_storyHeadings only
  obtain ⟨scene, conditions, toggles⟩ := destination
  obtain rfl : scene = some key := leads
  have taken : readStoryHeading block = .ok (strip written.text, key) := by
    simp [readStoryHeading, link, read]
  have defined := hasScene_addBlocks (strip written.text) block.body key (blocksFrom block.line text) key
  unfold blocksFrom at defined ⊢
  simp only [ofText, ofBlocks, found, taken, bind, Except.bind]
  split
  · rename_i present
    exact .inl ⟨defined.mp present, _, rfl⟩
  · rename_i missing
    refine .inr ⟨fun other inside level same => ?_, rfl⟩
    exact missing (defined.mpr ⟨other, inside, level, same⟩)

theorem ofText_of_isRefused (refused : IsRefused text fault) : ofText text = .error fault := by
  cases refused with
  | noStory none =>
      rw [storyHeadings_sourceLines, List.map_eq_nil_iff] at none
      simp [ofText, ofBlocks, storyBlock, none, bind, Except.bind]
  | second more =>
      rw [storyHeadings_sourceLines] at more
      obtain ⟨_, others, found, _, more⟩ := List.map_eq_cons_iff.mp more
      obtain ⟨_, _, rfl, rfl, _⟩ := List.map_eq_cons_iff.mp more
      simp [ofText, ofBlocks, storyBlock, found, bind, Except.bind]
  | noLink only plain =>
      obtain ⟨block, found, rfl, rfl⟩ := exists_block_of_storyHeadings only
      simp [ofText, ofBlocks, found, readStoryHeading, plain, bind, Except.bind]
  | @nowhere line heading written only link aimless =>
      obtain ⟨block, found, rfl, rfl⟩ := exists_block_of_storyHeadings only
      have stopped : readStoryHeading block = .error (.headingLeadsNowhere block.line) := by
        cases read : Destination.read? (strip written.target) with
        | none => simp [readStoryHeading, link, read]
        | some destination =>
            obtain ⟨scene, conditions, toggles⟩ := destination
            obtain rfl : scene = none := aimless _ read
            simp [readStoryHeading, link, read]
      simp [ofText, ofBlocks, found, stopped, bind, Except.bind]
  | undefined only link read leads absent =>
      rcases ofText_of_leads only link read leads with ⟨⟨block, taken, level, same⟩, _⟩ | ⟨_, failed⟩
      · exact absurd same (absent block taken level)
      · exact failed

/-- A text is a story, or it has a fault. -/
theorem exists_ok_or_isRefused (text : Text) :
    (∃ checked, ofText text = .ok checked) ∨ ∃ fault, IsRefused text fault := by
  cases headings : storyHeadings (sourceLines text) with
  | nil => exact .inr ⟨_, .noStory headings⟩
  | cons first others =>
      cases others with
      | cons second rest => exact .inr ⟨_, .second headings⟩
      | nil =>
          obtain ⟨line, heading⟩ := first
          cases link : WrittenLink.ofWhole? (strip heading.text) with
          | none => exact .inr ⟨_, .noLink headings link⟩
          | some written =>
              by_cases aim : ∃ destination key, Destination.read? (strip written.target) = some destination ∧
                  destination.scene = some key
              · obtain ⟨destination, key, read, leads⟩ := aim
                rcases ofText_of_leads headings link read leads with ⟨_, accepted⟩ | ⟨absent, _⟩
                · exact .inl accepted
                · exact .inr ⟨_, .undefined headings link read leads absent⟩
              · refine .inr ⟨_, .nowhere headings link fun destination read => ?_⟩
                exact Option.eq_none_iff_forall_ne_some.mpr fun key leads =>
                  aim ⟨destination, key, read, leads⟩

/-- A text is refused for the first fault that it has, and for no other reason. The fault is told with
the line of a second heading, or with that of the only one. -/
theorem ofText_eq_error_iff (text : Text) :
    (∀ fault, ofText text = .error fault ↔ IsRefused text fault) ∧
      ((∃ checked, ofText text = .ok checked) ↔ ∀ fault, ¬IsRefused text fault) ∧
      ∀ fault, IsRefused text fault → fault.line? =
        ((storyHeadings (sourceLines text))[1]?.or (storyHeadings (sourceLines text))[0]?).map
          Prod.fst := by
  refine ⟨fun fault => ⟨fun failed => ?_, ofText_of_isRefused⟩, ⟨?_, fun sound => ?_⟩, ?_⟩
  · rcases exists_ok_or_isRefused text with ⟨checked, accepted⟩ | ⟨other, refused⟩
    · rw [accepted] at failed
      contradiction
    · have same := ofText_of_isRefused refused
      rw [failed] at same
      cases same
      exact refused
  · intro ⟨checked, accepted⟩ fault refused
    rw [ofText_of_isRefused refused] at accepted
    contradiction
  · rcases exists_ok_or_isRefused text with accepted | ⟨fault, refused⟩
    · exact accepted
    · exact absurd refused (sound fault)
  · intro fault refused
    cases refused with
    | noStory none => rw [none]; rfl
    | second more => rw [more]; rfl
    | noLink only plain => rw [only]; rfl
    | nowhere only link aimless => rw [only]; rfl
    | undefined only link read leads absent => rw [only]; rfl

end Gamebook.Story
