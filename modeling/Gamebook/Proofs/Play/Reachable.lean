import Gamebook.Play.Walk
import Gamebook.Proofs.Story.Closed

/-!
The states that a reader can come to, link by link, and what holds of all of them.
-/

namespace Gamebook.Story

open Gamebook.Text Gamebook.Source Gamebook.Play

variable {story : Story} {state other : State} {next : List State} {link : Link} {scene : Scene}
  {name : Text}

/-- A reader can come to this state from the start. -/
inductive Reachable (story : Story) : State → Prop
  | start : Reachable story story.start
  | step {state other : State} {next : List State} (before : Reachable story state)
      (leads : story.successors state = .ok next) (member : other ∈ next) : Reachable story other

/-- The links that a state shows, those of its fresh actions first. -/
def linksOf (story : Story) (state : State) (scene : Scene) : List Link :=
  (story.freshActions state).flatMap Action.links ++ scene.links

theorem successors_eq_ok : story.successors state = .ok next ↔
    ∃ scene, story.resolve state = .ok scene ∧
      next = (openLinks state (story.linksOf state scene)).map state.follow := by
  cases found : story.resolve state with
  | error reason => simp [successors, found, bind, Except.bind]
  | ok scene => simp [successors, found, bind, Except.bind, pure, Except.pure, linksOf, eq_comm]

theorem best?_mem {scenes : List Scene} (best : best? scenes = some scene) : scene ∈ scenes := by
  cases scenes with
  | nil => contradiction
  | cons first rest =>
      simp only [best?, Option.some.injEq] at best
      subst best
      induction rest generalizing first with
      | nil => simp
      | cons second rest ih =>
          rw [List.foldl_cons]
          split
          · exact List.mem_cons_of_mem _ (ih second)
          · rcases List.mem_cons.mp (ih first) with same | later
            · rw [same]
              simp
            · exact List.mem_cons_of_mem _ (List.mem_cons_of_mem _ later)

theorem resolve_mem (found : story.resolve state = .ok scene) :
    scene ∈ story.candidates state := by
  unfold resolve at found
  split at found
  · rename_i best
    cases found
    exact best?_mem best
  · cases found

theorem mem_allLinks_of_mem_linksOf (found : story.resolve state = .ok scene)
    (member : link ∈ story.linksOf state scene) : link ∈ story.allLinks := by
  rcases List.mem_append.mp member with ofAction | ofScene
  · obtain ⟨action, fresh, listed⟩ := List.mem_flatMap.mp ofAction
    obtain ⟨toggle, _, known⟩ := List.mem_filterMap.mp fresh
    exact mem_allLinks.mpr (.inr ⟨action, mem_allActions_of_action? known, listed⟩)
  · have variant := (List.mem_filter.mp (resolve_mem found)).1
    exact mem_allLinks.mpr (.inl ⟨scene, mem_allScenes_of_variants variant, ofScene⟩)

theorem exists_link_of_successor (leads : story.successors state = .ok next)
    (member : other ∈ next) : ∃ link ∈ story.allLinks, other = state.follow link := by
  obtain ⟨scene, found, rfl⟩ := successors_eq_ok.mp leads
  obtain ⟨link, opened, rfl⟩ := List.mem_map.mp member
  exact ⟨link, mem_allLinks_of_mem_linksOf found (List.mem_filter.mp opened).1, rfl⟩

/-- What holds at the start, and still holds behind every link of the story, holds wherever a reader
can come. -/
theorem Reachable.induction {motive : State → Prop} (reached : story.Reachable state)
    (first : motive story.start)
    (follow : ∀ state, motive state → ∀ link ∈ story.allLinks, motive (state.follow link)) :
    motive state := by
  induction reached with
  | start => exact first
  | step _ leads member ih =>
      obtain ⟨link, known, rfl⟩ := exists_link_of_successor leads member
      exact follow _ ih link known

theorem follow_scene (state : State) (link : Link) :
    (state.follow link).scene = state.scene ∨ link.scene = some (state.follow link).scene := by
  unfold State.follow State.move
  cases link.scene with
  | none => exact .inl rfl
  | some key =>
      by_cases empty : key = []
      · exact .inl (if_pos empty)
      · exact .inr (congrArg some (if_neg empty).symm)

theorem contains_follow (state : State) (link : Link) (name : Text) :
    (state.follow link).toggles.contains name = true ↔
      state.toggles.contains name = true ∨ name ∈ (state.follow link).fresh := by
  change (state.toggles.union (state.follow link).fresh).contains name = true ↔ _
  rw [Toggles.contains_union, Bool.or_eq_true, List.contains_iff_mem, or_comm]

/-- What is set where a reader can come is a toggle of some link. -/
theorem Reachable.exists_link_of_contains (reached : story.Reachable state)
    (set : state.toggles.contains name = true) : ∃ link ∈ story.allLinks, name ∈ link.toggles := by
  revert set
  apply reached.induction
  · intro set
    cases set
  · intro state ih link known set
    rcases (contains_follow state link name).mp set with before | fresh
    · exact ih before
    · exact ⟨link, known, (List.mem_filter.mp fresh).1⟩

theorem Reachable.hasScene (closed : story.IsClosed) (reached : story.Reachable state) :
    story.hasScene state.scene = true := by
  refine reached.induction (motive := fun state => story.hasScene state.scene = true)
    closed.first fun state inside link known => ?_
  rcases follow_scene state link with same | leads
  · rw [same]
    exact inside
  · exact closed.targets link known _ leads

end Gamebook.Story
