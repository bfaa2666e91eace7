import Mathlib.Data.List.Nodup
import Mathlib.Data.List.Pairwise
import Gamebook.Proofs.Story.Links

/-!
What the tables of a story keep apart: a key stands once, and the variants under it ask for different
toggles.
-/

namespace Gamebook.Story

open Gamebook.Text Gamebook.Source

variable {story : Story} {scene other : Scene} {action : Action} {key : Text} {blocks : List Block}
  {checked : Checked}

structure IsDistinct (story : Story) : Prop where
  sceneKeys : (story.scenes.map Prod.fst).Nodup
  variants : ∀ entry ∈ story.scenes,
    entry.2.Pairwise fun left right => left.conditions.agrees right.conditions = false
  actionKeys : (story.actions.map Prod.fst).Nodup
  actions : ∀ entry ∈ story.actions, entry.2.key = entry.1

theorem keys_addVariant (scene : Scene) (table : List (Text × List Scene)) :
    (addVariant scene table).map Prod.fst =
      if scene.key ∈ table.map Prod.fst then table.map Prod.fst
      else table.map Prod.fst ++ [scene.key] := by
  induction table with
  | nil => rfl
  | cons entry table ih =>
      obtain ⟨key, variants⟩ := entry
      by_cases same : key = scene.key
      · simp [addVariant, same]
      · have other : ¬scene.key = key := fun equal => same equal.symm
        simp only [addVariant, same, if_false, List.map_cons, ih, List.mem_cons, other, false_or]
        split <;> rfl

theorem variants_of_mem_scenes {variants : List Scene} (distinct : story.IsDistinct)
    (member : (key, variants) ∈ story.scenes) : story.variants key = variants := by
  rw [Story.variants, lookup_of_mem distinct.sceneKeys member, Option.getD_some]

theorem IsDistinct.addScene (distinct : story.IsDistinct) (new : scene.IsNewIn story) :
    (story.addScene scene).IsDistinct where
  sceneKeys := by
    change ((addVariant scene story.scenes).map Prod.fst).Nodup
    rw [keys_addVariant]
    split
    · exact distinct.sceneKeys
    · rename_i absent
      rw [← List.concat_eq_append]
      exact distinct.sceneKeys.concat absent
  variants := by
    intro entry member
    rcases mem_addVariant member with known | rfl | ⟨variants, known, rfl⟩
    · exact distinct.variants entry known
    · exact List.pairwise_singleton _ _
    · refine List.pairwise_append.mpr ⟨distinct.variants _ known, List.pairwise_singleton _ _, ?_⟩
      intro variant inside added same
      rw [List.mem_singleton.mp same]
      exact new variant (by rwa [variants_of_mem_scenes distinct known])
  actionKeys := distinct.actionKeys
  actions := distinct.actions

theorem IsDistinct.addAction (distinct : story.IsDistinct) (new : action.IsNewIn story) :
    (story.addAction action).IsDistinct where
  sceneKeys := distinct.sceneKeys
  variants := distinct.variants
  actionKeys := by
    have absent : action.key ∉ story.actions.map Prod.fst := by
      intro listed
      obtain ⟨entry, member, same⟩ := List.mem_map.mp listed
      have found := lookup_of_mem distinct.actionKeys member
      rw [same] at found
      rw [Action.IsNewIn, action?, found] at new
      cases new
    change ((story.actions ++ [(action.key, action)]).map Prod.fst).Nodup
    rw [List.map_append, List.map_singleton, ← List.concat_eq_append]
    exact distinct.actionKeys.concat absent
  actions := by
    intro entry member
    rcases List.mem_append.mp member with known | added
    · exact distinct.actions entry known
    · rw [List.mem_singleton.mp added]

theorem addBlocks_isDistinct (name description firstScene : Text) (blocks : List Block) :
    (addBlocks ⟨name, description, firstScene, [], []⟩ blocks).1.IsDistinct :=
  addBlocks_induction ⟨List.nodup_nil, by simp, List.nodup_nil, by simp⟩
    (fun _ distinct _ _ new => distinct.addScene new)
    (fun _ distinct _ _ new => distinct.addAction new)

theorem isDistinct_of_ofText {text : Text} (accepted : ofText text = .ok checked) :
    checked.story.IsDistinct := by
  obtain ⟨_, name, firstScene, _, _, read, _⟩ := ofBlocks_eq_ok accepted
  rw [read]
  exact addBlocks_isDistinct name _ firstScene _

theorem WellKeyed.key_of_variants (keyed : story.WellKeyed) (member : scene ∈ story.variants key) :
    scene.key = key := by
  cases found : story.scenes.lookup key with
  | none => simp [Story.variants, found] at member
  | some list =>
      rw [Story.variants, found, Option.getD_some] at member
      exact (keyed _ (mem_of_lookup found)).2 scene member

theorem mem_variants_of_mem_allScenes (keyed : story.WellKeyed) (distinct : story.IsDistinct)
    (member : scene ∈ story.allScenes) : scene ∈ story.variants scene.key := by
  obtain ⟨⟨key, variants⟩, listed, inside⟩ := List.mem_flatMap.mp member
  rw [(keyed _ listed).2 scene inside, variants_of_mem_scenes distinct listed]
  exact inside

theorem IsDistinct.key_of_action? (distinct : story.IsDistinct)
    (found : story.action? key = some action) : action.key = key :=
  distinct.actions _ (mem_of_lookup found)

theorem IsDistinct.action?_key (distinct : story.IsDistinct) (member : action ∈ story.allActions) :
    story.action? action.key = some action := by
  obtain ⟨⟨key, same⟩, listed, rfl⟩ := List.mem_map.mp member
  rw [distinct.actions _ listed]
  exact lookup_of_mem distinct.actionKeys listed

theorem agrees_of_isEmpty {left right : Conditions} (first : left.isEmpty = true)
    (second : right.isEmpty = true) : left.agrees right = true := by
  have leftNone : left.entries = [] := List.isEmpty_iff.mp first
  have rightNone : right.entries = [] := List.isEmpty_iff.mp second
  simp [Conditions.agrees, Conditions.size, leftNone, rightNone]

/-- Two variants ask for different toggles, whichever of them the story has first. -/
def Scene.Differ (left right : Scene) : Prop :=
  left.conditions.agrees right.conditions = false ∨ right.conditions.agrees left.conditions = false

instance : Std.Symm Scene.Differ := ⟨fun _ _ => Or.symm⟩

/-- A scene has one variant without conditions at most. -/
theorem IsDistinct.eq_of_plain (distinct : story.IsDistinct) (member : scene ∈ story.variants key)
    (otherMember : other ∈ story.variants key) (plain : scene.conditions.isEmpty = true)
    (otherPlain : other.conditions.isEmpty = true) : scene = other := by
  cases found : story.scenes.lookup key with
  | none => simp [Story.variants, found] at member
  | some list =>
      rw [Story.variants, found, Option.getD_some] at member otherMember
      have apart : list.Pairwise Scene.Differ :=
        (distinct.variants _ (mem_of_lookup found)).imp Or.inl
      by_contra different
      rcases apart.forall member otherMember different with refused | refused
      · rw [agrees_of_isEmpty plain otherPlain] at refused
        cases refused
      · rw [agrees_of_isEmpty otherPlain plain] at refused
        cases refused

end Gamebook.Story
