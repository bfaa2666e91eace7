import Gamebook.Proofs.Source.Keys
import Gamebook.Proofs.Story.WellFormed

/-!
The parts of a story and the targets that name them. Every scene and every action that is kept has a key
that links can lead to, ask for and set, and it is found under that key.
-/

namespace Gamebook.Story

open Gamebook.Text Gamebook.Source

variable {story : Story} {checked : Checked} {blocks : List Block} {text : Text} {scene : Scene}
  {action : Action}

theorem IsMadeOf.isAddressed (made : story.IsMadeOf (takenBlocks blocks)) {entry : Entry}
    (member : entry ∈ story.entries) : Key.IsAddressed entry.key := by
  obtain ⟨block, taken, rfl⟩ := List.mem_map.mp (made.entries.subset member)
  rw [Entry.key_ofBlock]
  exact (Key.isHyphenated_ofName block.title).isAddressed (isNew_of_mem_takenFrom taken).2

theorem scene_isAddressed (accepted : ofText text = .ok checked)
    (member : scene ∈ checked.story.allScenes) :
    Key.IsAddressed scene.key ∧ scene ∈ checked.story.variants scene.key := by
  obtain ⟨heading, made⟩ := isMadeOf_of_ofText accepted
  refine ⟨made.isAddressed (List.mem_append_left _ (List.mem_map_of_mem member)), ?_⟩
  exact mem_variants_of_mem_allScenes (wellKeyed_of_ofText accepted) (isDistinct_of_ofText accepted) member

theorem action_isAddressed (accepted : ofText text = .ok checked)
    (member : action ∈ checked.story.allActions) :
    Key.IsAddressed action.key ∧ checked.story.action? action.key = some action := by
  obtain ⟨heading, made⟩ := isMadeOf_of_ofText accepted
  refine ⟨made.isAddressed (List.mem_append_right _ (List.mem_map_of_mem member)), ?_⟩
  exact (isDistinct_of_ofText accepted).action?_key member

/-- A name has no key if its lower case has no small letter and no digit. Otherwise its key is a row of
words of these with single hyphens between them, which targets can lead to, ask for and set; and a key
has itself as its key. So all that a story keeps can be named by its links, and is found there. -/
theorem keys_areAddressed :
    (∀ name : Text, (Key.ofName name = [] ↔ ∀ c ∈ lower name, Key.isKept c = false) ∧
      (Key.ofName name ≠ [] → Key.IsKey (Key.ofName name) ∧ Key.IsAddressed (Key.ofName name)) ∧
      Key.ofName (Key.ofName name) = Key.ofName name) ∧
    ∀ (text : Text) (checked : Checked), ofText text = .ok checked →
      (∀ scene ∈ checked.story.allScenes,
        Key.IsAddressed scene.key ∧ scene ∈ checked.story.variants scene.key) ∧
      ∀ action ∈ checked.story.allActions,
        Key.IsAddressed action.key ∧ checked.story.action? action.key = some action := by
  refine ⟨fun name => ⟨Key.ofName_eq_nil_iff, fun usable => ⟨Key.isKey_ofName usable, ?_⟩, ?_⟩, ?_⟩
  · exact (Key.isHyphenated_ofName name).isAddressed usable
  · exact Key.ofName_ofName name
  · intro text checked accepted
    exact ⟨fun scene member => scene_isAddressed accepted member,
      fun action member => action_isAddressed accepted member⟩

/-- A name whose capital letters and punctuation are not kept. -/
def millName : Text := "-- The İron  Mill (2nd)!"

theorem keys_areAddressed_mill :
    Key.ofName millName = "the-i-ron-mill-2nd".toList ∧ Key.IsAddressed "the-i-ron-mill-2nd" ∧
      ofText keySource = .ok ⟨keyStory, [], []⟩ ∧
      (∀ scene ∈ keyStory.allScenes, Key.IsAddressed scene.key ∧ scene ∈ keyStory.variants scene.key) ∧
      ∀ action ∈ keyStory.allActions,
        Key.IsAddressed action.key ∧ keyStory.action? action.key = some action := by
  have key : Key.ofName millName = "the-i-ron-mill-2nd".toList := by decide +kernel
  obtain ⟨names, stories⟩ := keys_areAddressed
  have addressed := ((names millName).2.1 (by rw [key]; decide)).2
  rw [key] at addressed
  exact ⟨key, addressed, ofText_keySource, stories keySource _ ofText_keySource⟩

end Gamebook.Story
