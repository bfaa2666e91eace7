import Gamebook.Proofs.Story.Accounting

/-!
The places that a story names in its source. Where it says that a link is, the source has that link;
the links of a block follow each other; and each warning is at a heading or at a link, none of them
before the heading of the story.
-/

namespace Gamebook.Story

open Gamebook.Text Gamebook.Source

variable {story : Story} {checked : Checked} {blocks earlier : List Block} {block : Block}
  {warning : Warning} {text : Text} {link : Link} {site : Site} {lines : List NumberedLine}
  {result : Story × List Warning} {spot : Nat × Nat}

/-- What a text says that is one link and nothing else: the two texts of the link and its target. -/
def readAlone? (text : Text) : Option (Text × Option Text × Destination) := do
  let written ← WrittenLink.ofWhole? text
  let destination ← Destination.read? (strip written.target)
  return (written.text, written.alternate?, destination)

/-- The link is written in its place, and what is written there says by itself what the story has of
the link. -/
structure Link.IsPlacedIn (link : Link) (texts : List Text) : Prop where
  written : ∃ line, Block.lineAt? texts link.line = some line ∧ 1 ≤ link.column ∧
    (line.drop (link.column - 1)).take link.source.length = link.source
  alone : readAlone? link.source =
    some (link.text, link.alternate?, ⟨link.scene, link.conditions, link.toggles⟩)

/-- The link begins before the other one, and ends before that begins. -/
def Link.IsBefore (left right : Link) : Prop :=
  left.line < right.line ∨ left.line = right.line ∧ left.column < right.column ∧
    left.column + left.source.length ≤ right.column

/-- A place in the line of a heading or in a line under one, from the line `start` on. -/
structure IsPlace (text : Text) (start line column : Nat) : Prop where
  behind : start ≤ line
  headed : ∃ block ∈ Block.ofText (text.dropWhile isByteOrderMark), start ≤ block.line ∧
    (line = block.line ∨ line ∈ block.lines.map NumberedLine.number)
  inside : ∃ source, Block.lineAt? (sourceLines text) line = some source ∧
    1 ≤ column ∧ column ≤ source.length

/-- The places that are named are those of the text. -/
structure Checked.IsPlacedIn (checked : Checked) (text : Text) : Prop where
  links : ∀ link ∈ checked.story.allLinks, link.IsPlacedIn (sourceLines text)
  ordered : ∀ entry ∈ checked.story.entries, entry.links.Pairwise Link.IsBefore
  warnings : ∃ start heading, storyHeadings (sourceLines text) = [(start, heading)] ∧
    ∀ warning ∈ checked.warnings, IsPlace text start warning.line warning.column

theorem mem_numberFrom_of_mem_block (member : block ∈ Block.ofText (text.dropWhile isByteOrderMark))
    {line : NumberedLine} (inside : line ∈ block.lines) :
    line ∈ Block.numberFrom 1 (sourceLines text) :=
  (Block.mem_gather member).2 line inside

theorem isPlacedIn_of_placeLinks (member : block ∈ Block.ofText (text.dropWhile isByteOrderMark))
    (listed : link ∈ (placeLinks block.lines).1) : link.IsPlacedIn (sourceLines text) := by
  obtain ⟨line, inside, column, written, found, placed⟩ := mem_placeLinks listed
  obtain ⟨destination, read, rfl⟩ := placeLink_eq_some placed
  have numbered := Block.lineAt?_of_mem (mem_numberFrom_of_mem_block member inside)
  obtain ⟨front, behind, whole, rfl⟩ := WrittenLink.exists_of_mem_ofLine found
  refine ⟨⟨line.text, numbered, Nat.le_add_left 1 _, ?_⟩, ?_⟩
  · simp [Link.source, whole]
  · simp [readAlone?, Link.source, WrittenLink.ofWhole?_of_mem_ofLine found, read, Link.text,
      Link.alternate?]

theorem pairwise_placeLinks
    (increasing : lines.Pairwise fun left right => left.number < right.number) :
    (placeLinks lines).1.Pairwise Link.IsBefore := by
  rw [placeLinks_eq]
  refine (pairwise_sites increasing).filterMap _ fun left right ends first found second other => ?_
  have column := ends.column_lt
  obtain ⟨_, _, rfl⟩ := placeLink_eq_some found
  obtain ⟨_, _, rfl⟩ := placeLink_eq_some other
  rcases ends with above | ⟨same, before⟩
  · exact .inl above
  · exact .inr ⟨same, column same, before⟩

def Warning.place (warning : Warning) : Nat × Nat := (warning.line, warning.column)

/-- The places in a block: the beginning of its heading and those of its links. -/
inductive IsPlaceOf (block : Block) : Nat × Nat → Prop
  | heading : IsPlaceOf block (block.line, 1)
  | link {site : Site} (member : site ∈ sites block.lines) : IsPlaceOf block site.place

theorem place_of_headingWarnings (member : warning ∈ headingWarnings block) :
    warning.place = (block.line, 1) := by
  unfold headingWarnings readSceneHeading readActionHeading at member
  grind [Warning.place]

theorem isPlaceOf_of_placeLinks (member : warning ∈ (placeLinks block.lines).2) :
    IsPlaceOf block warning.place := by
  rw [placeLinks_eq] at member
  obtain ⟨site, inside, listed⟩ := List.mem_flatMap.mp member
  rw [Warning.place, site.place_of_warnings listed]
  exact .link inside

theorem IsPlaceOf.ofLink (listed : link ∈ (placeLinks block.lines).1) :
    IsPlaceOf block (link.line, link.column) := by
  rw [placeLinks_eq] at listed
  obtain ⟨site, inside, placed⟩ := List.mem_filterMap.mp listed
  rw [site.place_of_link? placed]
  exact .link inside

/-- A warning about one block stands in that block. -/
theorem IsJudged.isPlaceOf (judged : IsJudged story earlier block result)
    (member : warning ∈ result.2) : IsPlaceOf block warning.place := by
  cases judged with
  | taken part new =>
      rcases List.mem_append.mp member with listed | listed
      · exact place_of_headingWarnings listed ▸ .heading
      · exact isPlaceOf_of_placeLinks listed
  | refused part known refuses =>
      rcases List.mem_append.mp member with listed | listed
      · exact place_of_headingWarnings listed ▸ .heading
      · obtain ⟨line, column, _⟩ := List.mem_singleton.mp listed ▸ refuses
        rw [Warning.place, line, column]
        exact .heading
  | passed other => contradiction

theorem IsMadeOf.ofJudged (made : story.IsMadeOf earlier)
    (judged : IsJudged story earlier block result) : ∃ later, result.1.IsMadeOf later := by
  cases judged with
  | taken part new => exact ⟨_, made.addEntry part⟩
  | refused part known refuses => exact ⟨_, made⟩
  | passed other => exact ⟨_, made⟩

theorem IsMadeOf.isPlaceOf (made : story.IsMadeOf earlier)
    (member : warning ∈ (Story.addBlocks story blocks).2) :
    ∃ block ∈ blocks, IsPlaceOf block warning.place := by
  induction blocks generalizing story earlier with
  | nil => contradiction
  | cons block blocks ih =>
      have judged := made.addBlock block
      simp only [Story.addBlocks, List.mem_append] at member
      generalize Story.addBlock story block = result at judged member
      rcases member with first | later
      · exact ⟨block, by simp, judged.isPlaceOf first⟩
      · obtain ⟨_, next⟩ := made.ofJudged judged
        obtain ⟨other, inside, place⟩ := ih next later
        exact ⟨other, by simp [inside], place⟩

theorem place_of_alwaysConditional {variants : List Scene}
    (member : warning ∈ alwaysConditional variants) :
    ∃ scene ∈ variants, warning.place = (scene.line, 1) := by
  cases variants with
  | nil => contradiction
  | cons first rest =>
      simp only [alwaysConditional] at member
      split at member
      · obtain rfl := List.mem_singleton.mp member
        exact ⟨first, by simp, rfl⟩
      · contradiction

theorem place_of_neverSet {line column : Nat} {conditions : Conditions}
    (member : warning ∈ neverSet story line column conditions) : warning.place = (line, column) := by
  obtain ⟨name, _, rfl⟩ := List.mem_map.mp member
  rfl

theorem place_of_undefinedTarget (member : warning ∈ undefinedTarget story link) :
    warning.place = (link.line, link.column) := by
  unfold undefinedTarget at member
  split at member
  · contradiction
  · split at member
    · contradiction
    · rw [List.mem_singleton.mp member]
      rfl

/-- A warning about what the parts of a story say of each other is at one of these parts. -/
theorem IsBuiltFrom.isPlaceOf (built : story.IsBuiltFrom blocks)
    (member : warning ∈ story.referenceWarnings) : ∃ block ∈ blocks, IsPlaceOf block warning.place := by
  have ofScene : ∀ scene ∈ story.allScenes, ∃ block ∈ blocks, IsPlaceOf block (scene.line, 1) := by
    intro scene inside
    obtain ⟨block, given, rfl⟩ := built.scenes scene inside
    exact ⟨block, given, .heading⟩
  have ofLink : ∀ link ∈ story.allLinks, ∃ block ∈ blocks, IsPlaceOf block (link.line, link.column) := by
    intro link inside
    obtain ⟨block, given, listed⟩ := built.exists_of_mem_allLinks inside
    exact ⟨block, given, .ofLink listed⟩
  simp only [referenceWarnings, List.mem_append, List.mem_flatMap, List.mem_mergeSort] at member
  rcases member with (⟨entry, inTable, listed⟩ | ⟨scene, inside, listed⟩) | ⟨link, inside, listed⟩
  · obtain ⟨scene, inVariants, place⟩ := place_of_alwaysConditional listed
    exact place ▸ ofScene scene (List.mem_flatMap.mpr ⟨entry, inTable, inVariants⟩)
  · exact place_of_neverSet listed ▸ ofScene scene inside
  · rcases listed with undefined | unset
    · exact place_of_undefinedTarget undefined ▸ ofLink link inside
    · exact place_of_neverSet unset ▸ ofLink link inside

theorem ne_nil_of_ofLine? {line : Text} {heading : Heading}
    (read : Heading.ofLine? line = some heading) : line ≠ [] := by
  rintro rfl
  simp [Heading.ofLine?] at read

/-- A place in a block of a source is a place in the source. -/
theorem IsPlaceOf.isPlace (found : IsPlaceOf block spot) {start : Nat}
    (member : block ∈ Block.ofText (text.dropWhile isByteOrderMark)) (behind : start ≤ block.line) :
    IsPlace text start spot.1 spot.2 := by
  cases found with
  | heading =>
      obtain ⟨line, inside, number, read⟩ := Block.heading_of_mem_gather member
      have nonempty := List.length_pos_iff.mpr (ne_nil_of_ofLine? read)
      refine ⟨behind, ⟨block, member, behind, .inl rfl⟩, line.text, ?_, Nat.le_refl 1, nonempty⟩
      rw [← number]
      exact Block.lineAt?_of_mem inside
  | @link site listed =>
      obtain ⟨line, inside, number, found⟩ := mem_sites.mp listed
      have under := Block.lt_of_mem_gather (Block.pairwise_numberFrom 1 _) member inside
      obtain ⟨front, rest, whole, column⟩ := WrittenLink.exists_of_mem_ofLine found
      have room := List.length_pos_iff.mpr (WrittenLink.pattern.write_ne_nil site.written)
      change 0 < site.written.write.length at room
      change IsPlace text start site.line site.column
      refine ⟨by omega, ⟨block, member, behind, .inr ?_⟩, line.text, ?_, by omega, ?_⟩
      · exact List.mem_map.mpr ⟨line, inside, number⟩
      · rw [← number]
        exact Block.lineAt?_of_mem (mem_numberFrom_of_mem_block member inside)
      · rw [whole, List.length_append, List.length_append]
        omega

/-- The places that a story names are those of the text it was read from. -/
theorem isPlacedIn_of_ofText (accepted : ofText text = .ok checked) : checked.IsPlacedIn text := by
  obtain ⟨heading, name, firstScene, found, _, read, _, _, warnings⟩ := ofBlocks_eq_ok accepted
  let blocks := blocksBehind heading (Block.ofText (text.dropWhile isByteOrderMark))
  have empty := isMadeOf_nil name heading.body firstScene
  have built := addBlocks_isBuiltFrom name heading.body firstScene blocks
  have made := addBlocks_isMadeOf name heading.body firstScene blocks
  rw [← read] at built made
  refine ⟨fun link member => ?_, fun entry member => ?_, heading.line, heading.heading, ?_,
    fun warning member => ?_⟩
  · obtain ⟨block, inside, listed⟩ := built.exists_of_mem_allLinks member
    exact isPlacedIn_of_placeLinks (List.mem_of_mem_filter inside) listed
  · obtain ⟨block, taken, rfl⟩ := List.mem_map.mp (made.entries.subset member)
    have given := List.mem_of_mem_filter ((takenFrom_sublist [] blocks).subset taken)
    rw [Entry.links_ofBlock]
    exact pairwise_placeLinks
      ((Block.pairwise_numberFrom 1 _).sublist (Block.sublist_of_mem_gather given))
  · rw [storyHeadings_sourceLines, filter_of_storyBlock found]
    rfl
  · obtain ⟨block, inside, place⟩ : ∃ block ∈ blocks, IsPlaceOf block warning.place := by
      rw [warnings] at member
      rcases List.mem_append.mp member with added | referred
      · exact empty.isPlaceOf added
      · exact built.isPlaceOf referred
    obtain ⟨given, behind⟩ := List.mem_filter.mp inside
    exact place.isPlace given (of_decide_eq_true behind)

/-- A marked source with a line in front of the story and two links in one line. -/
def yardSource : Text :=
  "\ufeffDraft.\n# [Yard](/yard)\n## Yard\n[In](/hall)[Wait](?dusk)\n".toList

def yardStory : Story where
  name := "Yard"
  description := []
  firstScene := "yard"
  scenes := [
    ("yard", [⟨"yard", "Yard", "[In](/hall)[Wait](?dusk)", 3, .empty,
      [⟨⟨"In", "/hall"⟩, 4, 1, some "hall", .empty, []⟩,
        ⟨⟨"Wait", "?dusk"⟩, 4, 12, none, Conditions.empty.put "dusk" true, []⟩]⟩])]

def yardWarnings : List Warning := [⟨4, 1, .undefinedScene "hall"⟩, ⟨4, 12, .toggleNeverSet "dusk"⟩]

theorem ofText_yardSource : ofText yardSource = .ok ⟨yardStory, [], yardWarnings⟩ := by
  have cut : Block.ofText (yardSource.dropWhile isByteOrderMark) = [
      ⟨⟨1, "[Yard](/yard)"⟩, 2, []⟩,
      ⟨⟨2, "Yard"⟩, 3, [⟨4, "[In](/hall)[Wait](?dusk)"⟩]⟩] := by decide +kernel
  have reached : yardStory.orphans = [] := by
    simp [orphans, unreachedFrom, yardStory, stops, allScenes, allActions, stopsAt, stopsElsewhere,
      Link.leadsTo]
  have warned : yardStory.referenceWarnings = yardWarnings := by
    rw [referenceWarnings, List.mergeSort_of_pairwise (by decide), List.mergeSort_of_pairwise (by decide)]
    decide
  rw [ofText, cut, ← reached, ← warned]
  exact ofBlocks_of_added rfl (by decide +kernel) (by decide +kernel) rfl

theorem isPlacedIn_yardSource :
    ofText yardSource = .ok ⟨yardStory, [], yardWarnings⟩ ∧
      Checked.IsPlacedIn ⟨yardStory, [], yardWarnings⟩ yardSource :=
  ⟨ofText_yardSource, isPlacedIn_of_ofText ofText_yardSource⟩

end Gamebook.Story
