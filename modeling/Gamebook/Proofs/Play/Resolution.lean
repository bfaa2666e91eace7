import Gamebook.Proofs.Play.Reachable
import Gamebook.Proofs.Source.Blocks

/-!
The variant that a state shows: of those whose conditions hold it has the most conditions, and of
several such it stands first. In a closed story there is always one.
-/

namespace Gamebook.Story

open Gamebook.Text Gamebook.Source Gamebook.Play

variable {story : Story} {state : State} {scene other : Scene} {scenes : List Scene} {key : Text}
  {checked : Checked} {text : Text}

/-- The first variant is shown in preference to the second: it has more conditions, or as many and
no later line. -/
def IsPreferred (scene other : Scene) : Prop :=
  other.conditions.size < scene.conditions.size ∨
    other.conditions.size = scene.conditions.size ∧ scene.line ≤ other.line

theorem IsPreferred.refl (scene : Scene) : IsPreferred scene scene := .inr ⟨rfl, Nat.le_refl _⟩

theorem IsPreferred.trans {last : Scene} (first : IsPreferred scene other)
    (second : IsPreferred other last) : IsPreferred scene last := by
  unfold IsPreferred at *
  omega

theorem isPreferred_of_isBetter (better : isBetter scene other = true) :
    IsPreferred other scene := by
  simp only [isBetter, Bool.or_eq_true, Bool.and_eq_true, decide_eq_true_eq] at better
  unfold IsPreferred
  omega

theorem isPreferred_of_not_isBetter (notBetter : ¬ isBetter scene other = true) :
    IsPreferred scene other := by
  simp only [isBetter, Bool.or_eq_true, Bool.and_eq_true, decide_eq_true_eq] at notBetter
  unfold IsPreferred
  omega

theorem best?_isPreferred (best : best? scenes = some scene) (member : other ∈ scenes) :
    IsPreferred scene other := by
  cases scenes with
  | nil => contradiction
  | cons first rest =>
      simp only [best?, Option.some.injEq] at best
      subst best
      induction rest generalizing first other with
      | nil =>
          rw [List.mem_singleton.mp member]
          exact .refl _
      | cons second rest ih =>
          rw [List.foldl_cons]
          -- the fold goes on with the better of the first two, which is preferred to both
          by_cases better : isBetter first second = true
          · rw [if_pos better]
            have overSecond := @ih second second (by simp)
            rcases List.mem_cons.mp member with rfl | later
            · exact overSecond.trans (isPreferred_of_isBetter better)
            · exact ih second later
          · rw [if_neg better]
            have overFirst := @ih first first (by simp)
            rcases List.mem_cons.mp member with rfl | later
            · exact overFirst
            · rcases List.mem_cons.mp later with rfl | later
              · exact overFirst.trans (isPreferred_of_not_isBetter better)
              · exact ih first (by simp [later])

theorem mem_candidates : scene ∈ story.candidates state ↔
    scene ∈ story.variants state.scene ∧ state.allows scene.conditions = true := by
  simp [candidates]

theorem resolve_isPreferred (found : story.resolve state = .ok scene)
    (member : other ∈ story.candidates state) : IsPreferred scene other := by
  unfold resolve at found
  split at found
  · rename_i best
    cases found
    exact best?_isPreferred best member
  · cases found

theorem resolve_exists (nonempty : story.candidates state ≠ []) :
    ∃ scene, story.resolve state = .ok scene := by
  cases list : story.candidates state with
  | nil => contradiction
  | cons first rest => exact ⟨_, by rw [resolve, list, best?]⟩

theorem allows_of_isEmpty {conditions : Conditions} (empty : conditions.isEmpty = true) :
    state.allows conditions = true := by
  have none : conditions.entries = [] := List.isEmpty_iff.mp empty
  simp [State.allows, Conditions.met, none]

/-- A closed story has something to show wherever a reader can come. -/
theorem Reachable.resolve_exists (closed : story.IsClosed) (reached : story.Reachable state) :
    ∃ scene, story.resolve state = .ok scene := by
  obtain ⟨variant, listed, empty⟩ := closed.plain _ (reached.hasScene closed)
  apply Story.resolve_exists
  exact List.ne_nil_of_mem (mem_candidates.mpr ⟨listed, allows_of_isEmpty empty⟩)

theorem eq_of_line_eq (accepted : ofText text = .ok checked)
    (leftIn : scene ∈ checked.story.allScenes) (rightIn : other ∈ checked.story.allScenes)
    (same : scene.line = other.line) : scene = other := by
  have built := isBuiltFrom_of_ofText accepted
  obtain ⟨left, leftBlock, rfl⟩ := built.scenes _ leftIn
  obtain ⟨right, rightBlock, rfl⟩ := built.scenes _ rightIn
  rw [Block.eq_of_line_eq leftBlock rightBlock same]

end Gamebook.Story
